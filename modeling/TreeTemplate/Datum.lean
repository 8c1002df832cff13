import TreeTemplate.Fault

/-!
# Descriptions of data

How a program describes data of its own to be taken as a value: by scalars of several widths,
options, sequences, structures, maps and variants. A description has at most one value. Nothing and
the units are null, a wrapper is what it wraps, and a variant with a content is a map with the name
of the variant as its only key.

A map is described by calls that give keys and values one by one. A key waits for its value; a key
that is given while another waits takes its place.

Main statements:

* `toValue_seq`, `toValue_map` — a collection is what its parts make.
-/

namespace TreeTemplate

/-- The calls by which a map is described. -/
inductive MapCall where
  | key
  | value
deriving Repr, DecidableEq

/-- A description of data. -/
inductive Datum where
  | bool (b : Bool)
  /-- An integer of a type whose values all fit 64 signed bits. -/
  | integer (n : Int64)
  /-- An integer of 64 unsigned bits. -/
  | unsigned (n : UInt64)
  /-- An integer of 128 bits. -/
  | wide (signed : Bool)
  | single (x : Decimal.Single)
  | float (x : Decimal.Double)
  | char (c : Char)
  | text (s : String)
  | bytes (octets : List UInt8)
  /-- An option that holds nothing. -/
  | absent
  /-- An option that holds something. -/
  | present (content : Datum)
  /-- The unit, or a structure without fields. -/
  | unit
  /-- A structure with one unnamed field. -/
  | wrapper (content : Datum)
  /-- A sequence, a tuple, or a structure with unnamed fields. -/
  | seq (items : List Datum)
  | map (calls : List (MapCall × Datum))
  | struct (fields : List (String × Datum))
  | unitVariant (variant : String)
  | wrapperVariant (variant : String) (content : Datum)
  | tupleVariant (variant : String) (items : List Datum)
  | structVariant (variant : String) (fields : List (String × Datum))
  /-- Data that cannot be described. -/
  | failure (message : String)

namespace Datum

/-- The text of a description as the key of a map. -/
def key : Datum → Except Cause String
  | bool b => .ok (if b then "true" else "false")
  | integer n => .ok (Decimal.integerText n)
  | unsigned n => .ok (toString n.toNat)
  | char c => .ok c.toString
  | text s => .ok s
  | unitVariant variant => .ok variant
  | present content => content.key
  | wrapper content => content.key
  | wide signed => .error (.wideInteger signed)
  | failure message => .error (.custom message)
  | single _ | float _ | bytes _ | absent | unit | seq _ | map _ | struct _ | wrapperVariant _ _
  | tupleVariant _ _ | structVariant _ _ => .error .keyNotText

mutual

/-- The value of a description. What is wrong first, from left to right, is reported. -/
def toValue : Datum → Except Cause Value
  | bool b => .ok (.bool b)
  | integer n => .ok (.integer n)
  | unsigned n =>
    if n.toNat < Decimal.halfRange then .ok
    (.integer (Int64.ofNat n.toNat)) else .error .integerOutOfRange
  | wide signed => .error (.wideInteger signed)
  | single x => .ok (.float x.toDouble)
  | float x => .ok (.float x)
  | char c => .ok (.string c.toString)
  | text s => .ok (.string s)
  | bytes octets => .ok (.list (octets.map fun b => .integer (Int64.ofNat b.toNat)))
  | absent => .ok .null
  | present content => content.toValue
  | unit => .ok .null
  | wrapper content => content.toValue
  | seq items => do return .list (← itemValues items)
  | map calls => do return .map (← mapEntries [] none calls)
  | struct fields => do return .map (← fieldEntries [] fields)
  | unitVariant variant => .ok (.string variant)
  | wrapperVariant variant content => do return .map [(variant, ← content.toValue)]
  | tupleVariant variant items => do return .map [(variant, .list (← itemValues items))]
  | structVariant variant fields => do return .map [(variant, .map (← fieldEntries [] fields))]
  | failure message => .error (.custom message)

/-- The values of the items of a sequence. -/
def itemValues : List Datum → Except Cause (List Value)
  | [] => .ok []
  | item :: items => do
    let value ← item.toValue
    return value :: (← itemValues items)

/-- The entries that the remaining calls of a map make of the entries so far, where `pending` is
the key that waits for its value. -/
def mapEntries (entries : List (String × Value)) (pending : Option String) :
    List (MapCall × Datum) → Except Cause (List (String × Value))
  | [] => .ok entries
  | (.key, datum) :: calls => do mapEntries entries (some (← datum.key)) calls
  | (.value, datum) :: calls =>
    match pending with
    | none => .error .valueWithoutKey
    | some key => do mapEntries (insertEntry key (← datum.toValue) entries) none calls

/-- The entries that the remaining fields of a structure make of the entries so far. -/
def fieldEntries (entries : List (String × Value)) :
    List (String × Datum) → Except Cause (List (String × Value))
  | [] => .ok entries
  | (name, datum) :: fields => do
    fieldEntries (insertEntry name (← datum.toValue) entries) fields

end

mutual

/-- The description that a value gives of itself. -/
def ofValue : Value → Datum
  | .null => unit
  | .bool b => bool b
  | .integer n => integer n
  | .float x => float x
  | .string s => text s
  | .list items => seq (ofItems items)
  | .map entries => map (ofEntries entries)

/-- The descriptions of the items of a list. -/
def ofItems : List Value → List Datum
  | [] => []
  | item :: items => ofValue item :: ofItems items

/-- The calls that describe the entries of a map. -/
def ofEntries : List (String × Value) → List (MapCall × Datum)
  | [] => []
  | (name, value) :: entries => (.key, text name) :: (.value, ofValue value) :: ofEntries entries

end

/-- A sequence is the list of its items. -/
theorem toValue_seq (items : List Datum) :
    (seq items).toValue = (itemValues items).map Value.list := by
  cases h : itemValues items <;> simp [toValue, h, bind, Except.bind, Except.map, pure, Except.pure]

/-- A map holds the entries that its calls make. -/
theorem toValue_map (calls : List (MapCall × Datum)) :
    (map calls).toValue = (mapEntries [] none calls).map Value.map := by
  cases h : mapEntries [] none calls <;>
    simp [toValue, h, bind, Except.bind, Except.map, pure, Except.pure]

end Datum

end TreeTemplate
