import TreeTemplate.Path
import Mathlib.Tactic.Lemma

/-!
# Reading from ordered values

A model whose maps are in the order of their names holds only such values, so whatever a path names
in it is one.

Main statements:

* `Value.Ordered.read` — what an operand names;
* `Value.Ordered.readItems`, `Value.Ordered.readEntries` — items and entries.
-/

namespace TreeTemplate

variable {model scope value v : Value} {segment operand : String}

namespace Value.Ordered

/-- The items of an ordered list are ordered. -/
lemma of_mem {items : List Value} (h : (Value.list items).Ordered) :
    ∀ item ∈ items, item.Ordered := by
  cases h with
  | list h => exact h

/-- The keys of an ordered map ascend, and its values are ordered. -/
lemma entries {entries : List (String × Value)} (h : (Value.map entries).Ordered) :
    Ascending entries ∧ ∀ entry ∈ entries, entry.2.Ordered := by
  cases h with
  | map hascending h => exact ⟨hascending, h⟩

/-- What is found among ordered values is ordered. -/
lemma lookup {entries : List (String × Value)} (h : ∀ entry ∈ entries, entry.2.Ordered)
    (hv : entries.lookup segment = some v) : v.Ordered := by
  induction entries with
  | nil => cases hv
  | cons entry entries ih =>
    rw [List.lookup_cons] at hv
    split at hv
    · cases hv
      exact h _ List.mem_cons_self
    · exact ih (fun entry he => h entry (List.mem_cons_of_mem _ he)) hv

/-- The property of an ordered value is ordered. -/
lemma property (h : value.Ordered) (hv : Path.property value segment = .ok v) : v.Ordered := by
  unfold Path.property at hv
  split at hv
  · rename_i entries
    split at hv
    · rename_i found hfound
      cases hv
      unfold Path.entry? at hfound
      split at hfound
      · rename_i hlookup
        cases hfound
        exact lookup h.entries.2 hlookup
      · split at hfound
        · exact lookup h.entries.2 hfound
        · cases hfound
    · cases hv
  · split at hv
    · cases hv
    · split at hv
      · rename_i hitem
        cases hv
        exact h.of_mem _ (List.mem_of_getElem? hitem)
      · cases hv
  · cases hv

/-- What a path finds in an ordered value is ordered. -/
lemma follow {segments : List String} (h : value.Ordered)
    (hv : Path.follow value segments = .ok v) : v.Ordered := by
  induction segments generalizing value with
  | nil =>
    cases hv
    exact h
  | cons segment segments ih =>
    simp only [Path.follow] at hv
    split at hv
    · cases hv
      exact h
    · cases hproperty : Path.property value segment with
      | error cause =>
        rw [hproperty] at hv
        cases hv
      | ok found =>
        rw [hproperty] at hv
        exact ih (h.property hproperty) hv

/-- What an operand names in an ordered scope is ordered. -/
lemma read (hmodel : model.Ordered) (hscope : scope.Ordered)
    (hv : Path.read model scope operand = .ok v) : v.Ordered := by
  unfold Path.read at hv
  split at hv
  · cases hv
  · rename_i path hpath
    cases path with
    | scope =>
      cases hv
      exact hscope
    | absolute segments => exact hmodel.follow hv
    | relative segments =>
      simp only [Path.resolve] at hv
      split at hv
      · exact hscope.follow hv
      · cases hv

/-- The items of an ordered list are ordered. -/
lemma readItems (hmodel : model.Ordered) (hscope : scope.Ordered) {items : List Value}
    (h : Path.readItems model scope operand = .ok items) : ∀ item ∈ items, item.Ordered := by
  unfold Path.readItems at h
  cases hread : Path.read model scope operand with
  | error cause =>
    rw [hread] at h
    cases h
  | ok v =>
    rw [hread] at h
    have hordered := hmodel.read hscope hread
    cases v with
    | list found =>
      cases h
      exact hordered.of_mem
    | null =>
      cases h
      exact fun item hi => nomatch hi
    | _ => cases h

/-- The entries of an ordered map are in the order of their names, and ordered. -/
lemma readEntries (hmodel : model.Ordered) (hscope : scope.Ordered)
    {entries : List (String × Value)} (h : Path.readEntries model scope operand = .ok entries) :
    Ascending entries ∧ ∀ entry ∈ entries, entry.2.Ordered := by
  unfold Path.readEntries at h
  cases hread : Path.read model scope operand with
  | error cause =>
    rw [hread] at h
    cases h
  | ok v =>
    rw [hread] at h
    have hordered := hmodel.read hscope hread
    cases v with
    | map found =>
      cases h
      exact hordered.entries
    | null =>
      cases h
      exact ⟨.nil, fun entry he => nomatch he⟩
    | _ => cases h

end Value.Ordered

end TreeTemplate
