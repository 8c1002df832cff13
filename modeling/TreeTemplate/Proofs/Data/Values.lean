import Mathlib.Tactic.Lemma
import TreeTemplate.Template

/-!
# Values as data

A value describes itself: by the scalars, the sequence or the calls of a map that it is. Whoever
reads that description gets the value back, so a value that is injected as data is injected as it
is.

Equality is that of the values themselves, which carry floats as their bits: a float that is no
number equals itself and differs from one of another sign or payload, and the two zeros are
different.

Main statements:

* `Datum.toValue_ofValue` — the value of the description of a value;
* `injectDatum_ofValue` — a value is injected as data as it is injected itself.
-/

namespace TreeTemplate

namespace Datum

variable {entry : String × Value} {before entries : List (String × Value)}

/-- The first of several entries comes behind all those before it. -/
lemma insertEntry_first (h : Ascending (before ++ entry :: entries)) :
    insertEntry entry.1 entry.2 before = before ++ [entry] := by
  refine insertEntry_append fun other hother => ?_
  rw [Ascending, List.map_append, List.map_cons] at h
  exact (List.pairwise_append.1 h).2.2 other hother entry.1 List.mem_cons_self

mutual

/-- The value of the description of a value is the value. -/
theorem toValue_ofValue : (v : Value) → v.Ordered → (ofValue v).toValue = .ok v
  | .null, _ => by rw [ofValue, toValue]
  | .bool _, _ => by rw [ofValue, toValue]
  | .integer _, _ => by rw [ofValue, toValue]
  | .float _, _ => by rw [ofValue, toValue]
  | .string _, _ => by rw [ofValue, toValue]
  | .list items, .list h => by
    rw [ofValue, toValue_seq, itemValues_ofItems items h]
    rfl
  | .map entries, .map hascending h => by
    rw [ofValue, toValue_map, mapEntries_ofEntries entries [] hascending h]
    rfl

/-- Items that are described are read as they were. -/
theorem itemValues_ofItems : (items : List Value) → (∀ item ∈ items, item.Ordered) →
    itemValues (ofItems items) = .ok items
  | [], _ => by rw [ofItems, itemValues]
  | item :: items, h => by
    have hitem := toValue_ofValue item (h item List.mem_cons_self)
    have hitems := itemValues_ofItems items fun other hother =>
      h other (List.mem_cons_of_mem _ hother)
    rw [ofItems, itemValues, hitem, hitems]
    rfl

/-- The entries are put in one by one, each behind those before it. -/
theorem mapEntries_ofEntries : (entries before : List (String × Value)) →
    Ascending (before ++ entries) → (∀ entry ∈ entries, entry.2.Ordered) →
    mapEntries before none (ofEntries entries) = .ok (before ++ entries)
  | [], before, _, _ => by rw [ofEntries, mapEntries, List.append_nil]
  | (name, value) :: entries, before, hascending, h => by
    have hvalue := toValue_ofValue value (h (name, value) List.mem_cons_self)
    have hplace : insertEntry name value before = before ++ [(name, value)] :=
      insertEntry_first hascending
    have hentries := mapEntries_ofEntries entries (before ++ [(name, value)])
      (by rwa [List.append_assoc]) fun other hother => h other (List.mem_cons_of_mem _ hother)
    rw [ofEntries, mapEntries]
    change mapEntries before (some name) ((.value, ofValue value) :: ofEntries entries) = _
    rw [mapEntries, hvalue]
    change mapEntries (insertEntry name value before) none (ofEntries entries) = _
    rw [hplace, hentries, List.append_assoc]
    rfl

end

end Datum

/-- The value of the description of a value is the value itself, so to inject a value as data is to
inject the value. -/
theorem injectDatum_ofValue {v : Value} (h : v.Ordered) :
    (Datum.ofValue v).toValue = .ok v ∧
      ∀ (t : Template) (e : Engine) (d : Document),
        t.injectDatum e d (Datum.ofValue v) = t.inject e d v :=
  ⟨Datum.toValue_ofValue v h, Template.injectDatum_of_ok (Datum.toValue_ofValue v h)⟩

/-- A map with an empty name, in which the smallest integer, a negative zero and two floats that are
no number, of different signs and payloads, stand in a list beside a map. -/
theorem injectDatum_ofValue_nested :
    let v := Value.map [("", .list [.integer Int64.minValue, .float ⟨0x8000000000000000⟩,
        .float ⟨0x7FF8000000000001⟩, .float ⟨0xFFF0000000000002⟩]),
      ("a", .map [("b", .null), ("c", .string "")])]
    v.Ordered ∧ (Datum.ofValue v).toValue = .ok v ∧
      ∀ (t : Template) (e : Engine) (d : Document),
        t.injectDatum e d (Datum.ofValue v) = t.inject e d v := by
  intro v
  have hlist : (Value.list [.integer Int64.minValue, .float ⟨0x8000000000000000⟩,
      .float ⟨0x7FF8000000000001⟩, .float ⟨0xFFF0000000000002⟩]).Ordered :=
    .list (by simpa using ⟨.integer _, .float _, .float _, .float _⟩)
  have hmap : (Value.map [("b", .null), ("c", .string "")]).Ordered :=
    .map (List.pairwise_pair.2 (by decide)) (by simpa using ⟨.null, .string _⟩)
  have hv : v.Ordered :=
    .map (List.pairwise_pair.2 (by decide)) (by simpa using ⟨hlist, hmap⟩)
  exact ⟨hv, injectDatum_ofValue hv⟩

end TreeTemplate
