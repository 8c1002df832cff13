import Mathlib.Tactic.Lemma
import TreeTemplate.Datum

/-!
# Reading descriptions

What a description of data means, told apart from what is wrong with it. The faults of a description
are listed in the order in which a traversal meets them, depth first, also those behind the first
one. The reading of a description is a value in every case; where there is no fault it is the value
that the description has, and otherwise the first fault is reported.

In the calls that describe a map, a key with a value directly behind it is an entry. A key without
one leaves nothing, and a value that follows no key is a fault.

Main statements:

* `Datum.key_eq` — what a description is as a key;
* `Datum.toValue_eq` — the value of a description, up to its first fault;
* `lookup_entriesOf` — of the pairs with one name the last counts;
* `toValue_reading` — all of this.
-/

namespace TreeTemplate

variable {α β : Type}

/-- What comes of a traversal that meets the given faults: the first of them, or a result. -/
def settled (faults : List Cause) (a : α) : Except Cause α :=
  match faults with
  | [] => .ok a
  | cause :: _ => .error cause

/-- Of two traversals one after another, the second counts when the first meets no fault. -/
lemma settled_bind {first later : List Cause} {a : α} {b : β} {f : α → Except Cause β}
    (h : f a = settled later b) : (settled first a >>= f) = settled (first ++ later) b := by
  cases first with
  | nil => exact h
  | cons cause first => rfl

/-- What is read is changed where there are no faults. -/
lemma settled_map (faults : List Cause) (a : α) (f : α → β) :
    (do return f (← settled faults a)) = settled faults (f a) := by
  cases faults <;> rfl

/-! ### Pairs of names and values -/

/-- Puts pairs into entries one after another. -/
def insertPairs (entries pairs : List (String × α)) : List (String × α) :=
  pairs.foldl (fun entries pair => insertEntry pair.1 pair.2 entries) entries

/-- Of the pairs with one key the last one counts, and otherwise what was there. -/
lemma lookup_insertPairs (entries pairs : List (String × α)) (name : String) :
    (insertPairs entries pairs).lookup name =
      (pairs.reverse.lookup name).or (entries.lookup name) := by
  induction pairs generalizing entries with
  | nil => rfl
  | cons pair pairs ih =>
    obtain ⟨key, a⟩ := pair
    have hstep : (insertPairs entries ((key, a) :: pairs)).lookup name =
        (pairs.reverse.lookup name).or ((insertEntry key a entries).lookup name) :=
      ih (insertEntry key a entries)
    rw [hstep, List.reverse_cons, List.lookup_append, Option.or_assoc]
    congr 1
    by_cases hname : name = key
    · subst hname
      simp [lookup_insertEntry_self]
    · simp [lookup_insertEntry_of_ne hname, List.lookup_cons, beq_eq_false_iff_ne.2 hname]

/-- Of the pairs with one name the last counts. -/
theorem lookup_entriesOf (pairs : List (String × α)) (name : String) :
    (entriesOf pairs).lookup name = pairs.reverse.lookup name := by
  have h := lookup_insertPairs [] pairs name
  rwa [List.lookup_nil, Option.or_none] at h

namespace Datum

/-! ### Keys -/

/-- A description without the options and the wrappers around it. -/
def bare : Datum → Datum
  | present content => content.bare
  | wrapper content => content.bare
  | datum => datum

/-- The text of a string, a character, a truth value, an integer of up to 64 bits or a variant
without content. -/
def text? : Datum → Option String
  | bool b => some (if b then "true" else "false")
  | integer n => some (Decimal.integerText n)
  | unsigned n => some (toString n.toNat)
  | char c => some c.toString
  | text s => some s
  | unitVariant variant => some variant
  | _ => none

/-- The text of a description as a key. -/
def keyText (datum : Datum) : String :=
  datum.bare.text?.getD ""

/-- What is wrong with a description as a key. -/
def keyFaults (datum : Datum) : List Cause :=
  match datum.bare with
  | wide signed => [.wideInteger signed]
  | failure message => [.custom message]
  | bare => if bare.text?.isSome then [] else [.keyNotText]

/-- A description is a key when it has a text within its options and wrappers. -/
theorem key_eq (datum : Datum) : datum.key = settled datum.keyFaults datum.keyText := by
  fun_induction bare datum with
  | case1 content ih => exact ih
  | case2 content ih => exact ih
  | case3 datum hpresent hwrapper =>
    cases datum with
    | present content => exact absurd rfl (hpresent content)
    | wrapper content => exact absurd rfl (hwrapper content)
    | _ => rfl

/-! ### Values -/

mutual

/-- What is wrong with a description, in the order of a traversal. -/
def faults : Datum → List Cause
  | unsigned n => if Int64.maxValue.toInt < n.toNat then [.integerOutOfRange] else []
  | wide signed => [.wideInteger signed]
  | failure message => [.custom message]
  | present content => content.faults
  | wrapper content => content.faults
  | wrapperVariant _ content => content.faults
  | seq items => itemFaults items
  | tupleVariant _ items => itemFaults items
  | map calls => callFaults calls
  | struct fields => fieldFaults fields
  | structVariant _ fields => fieldFaults fields
  | bool _ | integer _ | single _ | float _ | char _ | text _ | bytes _ | absent | unit
  | unitVariant _ => []

/-- What is wrong with the items of a sequence. -/
def itemFaults : List Datum → List Cause
  | [] => []
  | item :: items => item.faults ++ itemFaults items

/-- What is wrong with the calls that describe a map: a value needs a key directly before it. -/
def callFaults : List (MapCall × Datum) → List Cause
  | [] => []
  | (.key, key) :: (.value, value) :: calls => key.keyFaults ++ (value.faults ++ callFaults calls)
  | (.key, key) :: calls => key.keyFaults ++ callFaults calls
  | (.value, value) :: calls => .valueWithoutKey :: (value.faults ++ callFaults calls)

/-- What is wrong with the fields of a structure. -/
def fieldFaults : List (String × Datum) → List Cause
  | [] => []
  | (_, datum) :: fields => datum.faults ++ fieldFaults fields

end

mutual

/-- What a description means, where nothing is wrong with it. -/
def reading : Datum → Value
  | bool b => .bool b
  | integer n => .integer n
  | unsigned n => .integer (Int64.ofNat n.toNat)
  | single x => .float x.toDouble
  | float x => .float x
  | char c => .string c.toString
  | text s => .string s
  | bytes octets => .list (octets.map fun octet => .integer (Int64.ofNat octet.toNat))
  | absent | unit => .null
  | present content => content.reading
  | wrapper content => content.reading
  | seq items => .list (itemReadings items)
  | map calls => .ofPairs (callPairs calls)
  | struct fields => .ofPairs (fieldPairs fields)
  | unitVariant variant => .string variant
  | wrapperVariant variant content => .ofPairs [(variant, content.reading)]
  | tupleVariant variant items => .ofPairs [(variant, .list (itemReadings items))]
  | structVariant variant fields => .ofPairs [(variant, .ofPairs (fieldPairs fields))]
  | wide _ | failure _ => .null

/-- What the items of a sequence mean. -/
def itemReadings : List Datum → List Value
  | [] => []
  | item :: items => item.reading :: itemReadings items

/-- The pairs of keys and values in the calls that describe a map: those of a key with a value
directly behind it. -/
def callPairs : List (MapCall × Datum) → List (String × Value)
  | [] => []
  | (.key, key) :: (.value, value) :: calls => (key.keyText, value.reading) :: callPairs calls
  | _ :: calls => callPairs calls

/-- The pairs of names and values of the fields of a structure. -/
def fieldPairs : List (String × Datum) → List (String × Value)
  | [] => []
  | (name, datum) :: fields => (name, datum.reading) :: fieldPairs fields

end

/-- No value comes first in the calls. -/
def LeadsNoValue (calls : List (MapCall × Datum)) : Prop :=
  ∀ value later, calls ≠ (.value, value) :: later

/-- In no calls there is no value. -/
lemma leadsNoValue_nil : LeadsNoValue [] :=
  fun _ _ h => by cases h

/-- No value comes first where a key does. -/
lemma leadsNoValue_key (key : Datum) (calls : List (MapCall × Datum)) :
    LeadsNoValue ((.key, key) :: calls) := by
  simp [LeadsNoValue]

section

variable {calls : List (MapCall × Datum)}

/-- The faults of a key come before those of the other calls. -/
lemma callFaults_key (h : LeadsNoValue calls) (key : Datum) :
    callFaults ((.key, key) :: calls) = key.keyFaults ++ callFaults calls := by
  rw [callFaults]
  exact h

/-- A key by itself makes no pair. -/
lemma callPairs_key (h : LeadsNoValue calls) (key : Datum) :
    callPairs ((.key, key) :: calls) = callPairs calls := by
  rw [callPairs]
  exact fun _ value later _ hcalls => h value later hcalls

/-- A key that waits is lost where no value follows. -/
lemma mapEntries_some (h : LeadsNoValue calls) (entries : List (String × Value)) (name : String) :
    mapEntries entries (some name) calls = mapEntries entries none calls := by
  cases calls with
  | nil => rw [mapEntries, mapEntries]
  | cons call calls =>
    obtain ⟨role, datum⟩ := call
    cases role with
    | key => rw [mapEntries, mapEntries]
    | value => exact absurd rfl (h datum calls)

end

mutual

/-- The value of a description is its reading, unless it has a fault. Then the first is reported. -/
theorem toValue_eq : (datum : Datum) → datum.toValue = settled datum.faults datum.reading
  | bool _ => by rw [toValue, faults, reading]; rfl
  | integer _ => by rw [toValue, faults, reading]; rfl
  | unsigned n => by
    rw [toValue, faults, reading]
    have hlimit : Int64.maxValue.toInt < n.toNat ↔ ¬ n.toNat < Decimal.halfRange := by
      have hmax : Int64.maxValue.toInt = 9223372036854775807 := rfl
      have hhalf : Decimal.halfRange = 9223372036854775808 := rfl
      omega
    by_cases hn : n.toNat < Decimal.halfRange
    · rw [if_pos hn, if_neg fun h => hlimit.1 h hn]
      rfl
    · rw [if_neg hn, if_pos (hlimit.2 hn)]
      rfl
  | wide _ => by rw [toValue, faults, reading]; rfl
  | single _ => by rw [toValue, faults, reading]; rfl
  | float _ => by rw [toValue, faults, reading]; rfl
  | char _ => by rw [toValue, faults, reading]; rfl
  | text _ => by rw [toValue, faults, reading]; rfl
  | bytes _ => by rw [toValue, faults, reading]; rfl
  | absent => by rw [toValue, faults, reading]; rfl
  | present content => by rw [toValue, faults, reading, toValue_eq content]
  | unit => by rw [toValue, faults, reading]; rfl
  | wrapper content => by rw [toValue, faults, reading, toValue_eq content]
  | seq items => by rw [toValue, faults, reading, itemValues_eq items, settled_map]
  | map calls => by
    rw [toValue, faults, reading, mapEntries_eq calls [], settled_map]
    rfl
  | struct fields => by
    rw [toValue, faults, reading, fieldEntries_eq fields [], settled_map]
    rfl
  | unitVariant _ => by rw [toValue, faults, reading]; rfl
  | wrapperVariant variant content => by
    rw [toValue, faults, reading, toValue_eq content, settled_map]
    rfl
  | tupleVariant variant items => by
    rw [toValue, faults, reading, itemValues_eq items, settled_map]
    rfl
  | structVariant variant fields => by
    rw [toValue, faults, reading, fieldEntries_eq fields [], settled_map]
    rfl
  | failure _ => by rw [toValue, faults, reading]; rfl

/-- Items are read one by one, unless one of them has a fault. -/
theorem itemValues_eq : (items : List Datum) →
    itemValues items = settled (itemFaults items) (itemReadings items)
  | [] => by rw [itemValues, itemFaults, itemReadings]; rfl
  | item :: items => by
    rw [itemValues, itemFaults, itemReadings, toValue_eq item]
    refine settled_bind ?_
    rw [itemValues_eq items, settled_map]

/-- Calls are read as pairs of keys and values, unless one of them has a fault. -/
theorem mapEntries_eq : (calls : List (MapCall × Datum)) → (entries : List (String × Value)) →
    mapEntries entries none calls =
      settled (callFaults calls) (insertPairs entries (callPairs calls))
  | [], entries => by rw [mapEntries, callFaults, callPairs]; rfl
  | (.key, key) :: (.value, value) :: calls, entries => by
    rw [mapEntries, callFaults, callPairs, key_eq]
    refine settled_bind ?_
    rw [mapEntries, toValue_eq value]
    refine settled_bind ?_
    exact mapEntries_eq calls _
  | [(.key, key)], entries => by
    rw [mapEntries, callFaults_key leadsNoValue_nil, callPairs_key leadsNoValue_nil, key_eq]
    refine settled_bind ?_
    rw [mapEntries_some leadsNoValue_nil]
    exact mapEntries_eq [] entries
  | (.key, key) :: (.key, later) :: calls, entries => by
    have hnext := leadsNoValue_key later calls
    rw [mapEntries, callFaults_key hnext, callPairs_key hnext, key_eq]
    refine settled_bind ?_
    rw [mapEntries_some hnext]
    exact mapEntries_eq ((.key, later) :: calls) entries
  | (.value, value) :: calls, entries => by
    rw [mapEntries, callFaults]
    rfl

/-- Fields are read as pairs of names and values, unless one of them has a fault. -/
theorem fieldEntries_eq : (fields : List (String × Datum)) → (entries : List (String × Value)) →
    fieldEntries entries fields =
      settled (fieldFaults fields) (insertPairs entries (fieldPairs fields))
  | [], entries => by rw [fieldEntries, fieldFaults, fieldPairs]; rfl
  | (name, datum) :: fields, entries => by
    rw [fieldEntries, fieldFaults, fieldPairs, toValue_eq datum]
    refine settled_bind ?_
    exact fieldEntries_eq fields _

end

end Datum

/-- The value of a description is its reading when a traversal meets no fault, and otherwise the
first fault that it meets is reported. A reading that is a map has its names in order, and of the
pairs with one name the last counts. -/
theorem toValue_reading (datum : Datum) :
    (datum.toValue =
      match datum.faults with
      | [] => .ok datum.reading
      | cause :: _ => .error cause) ∧
    ∀ pairs : List (String × Value), ∃ entries, Value.ofPairs pairs = .map entries ∧
      Ascending entries ∧ ∀ name, entries.lookup name = pairs.reverse.lookup name :=
  ⟨Datum.toValue_eq datum, fun pairs =>
    ⟨entriesOf pairs, rfl, ascending_entriesOf pairs, lookup_entriesOf pairs⟩⟩

/-- A key that is replaced, one that is given twice, and one that waits in vain. -/
example : (Datum.map [(.key, .text "lost"), (.key, .present (.char 'k')), (.value, .absent),
    (.key, .text "k"), (.value, .bool true), (.key, .unsigned 7)]).toValue =
      .ok (.map [("k", .bool true)]) :=
  rfl

end TreeTemplate
