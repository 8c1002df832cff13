import TreeTemplate.Document.Supply

/-!
# Stashes

The templates that were taken out of the elements of a tree: the template of the items of a list,
or the two templates of the entries of a map. Each element has at most one of them, and the
templates are nodes that are in no other tree.

Main statements:

* `find?_insert_self`, `find?_insert_of_ne` — what is stashed after an insertion;
* `find?_take?` — what is taken is what was found;
* `find?_of_take?_self`, `find?_of_take?_of_ne` — what is stashed after something is taken;
* `entries_length_of_take?` — a stash that something is taken from becomes smaller.
-/

namespace TreeTemplate

/-- What is stashed for an element. -/
inductive Stored where
  /-- The template of the items of a list. -/
  | item (template : NodeId)
  /-- The templates of the keys and the values of a map. -/
  | entry (key value : NodeId)
deriving Repr, DecidableEq

/-- The templates of a stored piece. -/
def Stored.templates : Stored → List NodeId
  | item template => [template]
  | entry key value => [key, value]

/-- The templates that were taken out of elements. -/
structure Stash where
  entries : List (NodeId × Stored) := []
deriving Repr, DecidableEq

namespace Stash

/-- Whether nothing is stashed. -/
def isEmpty (s : Stash) : Bool :=
  s.entries.isEmpty

/-- What is stashed for an element. -/
def find? (s : Stash) (n : NodeId) : Option Stored :=
  s.entries.lookup n

/-- Stashes something for an element that has nothing stashed. -/
def insert (s : Stash) (n : NodeId) (stored : Stored) : Stash :=
  ⟨(n, stored) :: s.entries⟩

/-- What is stashed for an element, and the stash without it. -/
def take? (s : Stash) (n : NodeId) : Option (Stored × Stash) :=
  (s.find? n).map fun stored => (stored, ⟨s.entries.filter (·.1 ≠ n)⟩)

/-- What is stashed for a node is found. -/
theorem find?_insert_self (s : Stash) (n : NodeId) (stored : Stored) :
    (s.insert n stored).find? n = some stored := by
  simp [find?, insert]

/-- What is stashed for other nodes is found as before. -/
theorem find?_insert_of_ne (s : Stash) {n m : NodeId} (h : m ≠ n) (stored : Stored) :
    (s.insert n stored).find? m = s.find? m := by
  have : (m == n) = false := by simpa using h
  simp [find?, insert, List.lookup_cons, this]

/-- What is taken is what was found. -/
theorem find?_take? {s rest : Stash} {n : NodeId} {stored : Stored}
    (h : s.take? n = some (stored, rest)) : s.find? n = some stored := by
  simp only [take?, Option.map_eq_some_iff, Prod.mk.injEq] at h
  obtain ⟨found, hfound, rfl, _⟩ := h
  exact hfound

/-- Entries for other nodes are found where those for one are taken out. -/
theorem lookup_filter_of_ne {n m : NodeId} (h : m ≠ n) (entries : List (NodeId × Stored)) :
    (entries.filter (·.1 ≠ n)).lookup m = entries.lookup m := by
  induction entries with
  | nil => rfl
  | cons entry entries ih =>
    by_cases he : entry.1 = n
    · have : (m == entry.1) = false := by simpa [he] using h
      rw [List.filter_cons_of_neg (by simp [he]), List.lookup_cons, this]
      exact ih
    · rw [List.filter_cons_of_pos (by simp [he]), List.lookup_cons, List.lookup_cons, ih]

/-- No entry is found for a node whose entries are taken out. -/
theorem lookup_filter_self (n : NodeId) (entries : List (NodeId × Stored)) :
    (entries.filter (·.1 ≠ n)).lookup n = none := by
  induction entries with
  | nil => rfl
  | cons entry entries ih =>
    by_cases he : entry.1 = n
    · rw [List.filter_cons_of_neg (by simp [he])]
      exact ih
    · have : (n == entry.1) = false := by simpa using fun e => he (Eq.symm e)
      rw [List.filter_cons_of_pos (by simp [he]), List.lookup_cons, this]
      exact ih

/-- Where something was taken nothing is left. -/
theorem find?_of_take?_self {s rest : Stash} {n : NodeId} {stored : Stored}
    (h : s.take? n = some (stored, rest)) : rest.find? n = none := by
  simp only [take?, Option.map_eq_some_iff, Prod.mk.injEq] at h
  obtain ⟨_, _, _, rfl⟩ := h
  exact lookup_filter_self n s.entries

/-- What is stashed for other elements stays. -/
theorem find?_of_take?_of_ne {s rest : Stash} {n m : NodeId} {stored : Stored}
    (h : s.take? n = some (stored, rest)) (hm : m ≠ n) : rest.find? m = s.find? m := by
  simp only [take?, Option.map_eq_some_iff, Prod.mk.injEq] at h
  obtain ⟨_, _, _, rfl⟩ := h
  exact lookup_filter_of_ne hm s.entries

/-- An entry that is found is there. -/
theorem mem_of_lookup {n : NodeId} {stored : Stored} {entries : List (NodeId × Stored)}
    (h : entries.lookup n = some stored) : (n, stored) ∈ entries := by
  induction entries with
  | nil => simp at h
  | cons entry entries ih =>
    obtain ⟨m, found⟩ := entry
    rw [List.lookup_cons] at h
    split at h
    · rename_i heq
      simp only [beq_iff_eq] at heq
      simp_all
    · exact List.mem_cons_of_mem _ (ih h)

/-- A stash that something is taken from becomes smaller. -/
theorem entries_length_of_take? {s rest : Stash} {n : NodeId} {stored : Stored}
    (h : s.take? n = some (stored, rest)) : rest.entries.length < s.entries.length := by
  have hmem := mem_of_lookup (find?_take? h)
  simp only [take?, Option.map_eq_some_iff, Prod.mk.injEq] at h
  obtain ⟨_, _, _, rfl⟩ := h
  exact List.length_filter_lt_length_iff_exists.2 ⟨_, hmem, by simp⟩

end Stash

end TreeTemplate
