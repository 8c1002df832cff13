import TreeTemplate.Document.Forest
import Mathlib.Data.List.Perm.Basic
import Mathlib.Tactic.Lemma

/-!
# Identities in a forest

Which identities a forest has, and what the operations on a forest do with an identity that only one
of its trees has. `releasedOf` lists the identities of a forest; an operation passes over the trees
that lack the identity it looks for.

Main statements:

* `findIn?_middle`, `updateIn?_middle`, `takeIn?_middle_self`, `takeIn?_middle_below` — an operation
  works on the one tree that has the identity;
* `takeIn?_last`, `updateIn?_last` — an operation on the last tree of a forest;
* `exists_findIn?` — a node whose identity is in one of the trees is found.
-/

namespace TreeTemplate.Tree

variable {n : NodeId} {t : Tree NodeId} {ts us : List (Tree NodeId)}
  {f : Tree NodeId → Tree NodeId}

/-- An induction over a tree that gives the property for every child. -/
@[elab_as_elim]
lemma induct {ι : Type} {motive : Tree ι → Prop}
    (element : ∀ label tag attrs hidden children, (∀ t ∈ children, motive t) →
      motive (.element label tag attrs hidden children))
    (text : ∀ label content, motive (.text label content)) (t : Tree ι) : motive t :=
  @Tree.rec ι motive (fun ts => ∀ t ∈ ts, motive t)
    (fun label tag attrs hidden children h => element label tag attrs hidden children h) text
    (fun _ h => nomatch h)
    (fun _ _ ht hts _ h => (List.mem_cons.1 h).elim (fun e => e ▸ ht) (hts _)) t

/-- The identities of an element are those below it, and its own behind them. -/
@[simp]
lemma released_element (m : NodeId) (tag attrs hidden) (children : List (Tree NodeId)) :
    (element m tag attrs hidden children).released = releasedOf children ++ [m] := rfl

/-- No trees have no identities. -/
@[simp]
lemma releasedOf_nil : releasedOf [] = [] := rfl

/-- The identities of several trees are those of the first and those of the others. -/
@[simp]
lemma releasedOf_cons (t : Tree NodeId) (ts : List (Tree NodeId)) :
    releasedOf (t :: ts) = t.released ++ releasedOf ts := rfl

/-- The identities of several trees are those of the first ones and those of the others. -/
@[simp]
lemma releasedOf_append (ts us : List (Tree NodeId)) :
    releasedOf (ts ++ us) = releasedOf ts ++ releasedOf us := by
  induction ts with
  | nil => rfl
  | cons t ts ih => simp [ih]

/-- Trees in another order have the same identities in another order. -/
lemma releasedOf_perm (h : ts.Perm us) : (releasedOf ts).Perm (releasedOf us) := by
  induction h with
  | nil => exact .refl _
  | cons t _ ih => exact ih.append_left t.released
  | swap t u ts =>
    simp only [releasedOf_cons, ← List.append_assoc]
    exact (List.perm_append_comm).append_right _
  | trans _ _ ih ih' => exact ih.trans ih'

/-- The identity of a tree is one of its identities. -/
lemma label_mem_released (t : Tree NodeId) : t.label ∈ t.released := by
  cases t <;> simp [released, label]

/-- The identities of one of several trees are among theirs. -/
lemma released_subset_of_mem (h : t ∈ ts) : t.released ⊆ releasedOf ts := by
  induction ts with
  | nil => cases h
  | cons u ts ih =>
    intro m hm
    rw [releasedOf_cons, List.mem_append]
    cases h with
    | head => exact .inl hm
    | tail _ h => exact .inr (ih h hm)

/-! ## Identities that a forest lacks -/

mutual

/-- A node with another identity than those of a tree is not found in it. -/
lemma find?_of_notMem {t : Tree NodeId} (h : n ∉ t.released) : t.find? n = none := by
  cases t with
  | element m tag attrs hidden children =>
    simp only [released_element, List.mem_append, List.mem_singleton, not_or] at h
    simp only [find?, if_neg (Ne.symm h.2), findIn?_of_notMem h.1]
  | text m content =>
    simp only [released, List.mem_singleton] at h
    simp only [find?, if_neg (Ne.symm h)]

/-- A node with another identity than those of several trees is not found in them. -/
lemma findIn?_of_notMem {ts : List (Tree NodeId)} (h : n ∉ releasedOf ts) :
    findIn? n ts = none := by
  cases ts with
  | nil => rfl
  | cons t ts =>
    simp only [releasedOf_cons, List.mem_append, not_or] at h
    simp only [findIn?, findIn?_of_notMem h.2, find?_of_notMem h.1]

end

mutual

/-- A node with another identity than those of a tree cannot be changed in it. -/
lemma update?_of_notMem {t : Tree NodeId} (h : n ∉ t.released) : t.update? n f = none := by
  cases t with
  | element m tag attrs hidden children =>
    simp only [released_element, List.mem_append, List.mem_singleton, not_or] at h
    simp only [update?, if_neg (Ne.symm h.2), updateIn?_of_notMem h.1, Option.map_none]
  | text m content =>
    simp only [released, List.mem_singleton] at h
    simp only [update?, if_neg (Ne.symm h)]

/-- A node with another identity than those of several trees cannot be changed in them. -/
lemma updateIn?_of_notMem {ts : List (Tree NodeId)} (h : n ∉ releasedOf ts) :
    updateIn? n f ts = none := by
  cases ts with
  | nil => rfl
  | cons t ts =>
    simp only [releasedOf_cons, List.mem_append, not_or] at h
    simp only [updateIn?, updateIn?_of_notMem h.2, update?_of_notMem h.1, Option.map_none]

end

mutual

/-- A node with another identity than those of a tree cannot be taken out of it. -/
lemma takeBelow?_of_notMem {t : Tree NodeId} (h : n ∉ t.released) : t.takeBelow? n = none := by
  cases t with
  | element m tag attrs hidden children =>
    simp only [released_element, List.mem_append, not_or] at h
    simp only [takeBelow?, takeIn?_of_notMem h.1, Option.map_none]
  | text m content => rfl

/-- A node with another identity than those of several trees cannot be taken out of them. -/
lemma takeIn?_of_notMem {ts : List (Tree NodeId)} (h : n ∉ releasedOf ts) :
    takeIn? n ts = none := by
  cases ts with
  | nil => rfl
  | cons t ts =>
    simp only [releasedOf_cons, List.mem_append, not_or] at h
    have hne : t.label ≠ n := fun e => h.1 (e ▸ label_mem_released t)
    simp only [takeIn?, takeIn?_of_notMem h.2, if_neg hne, takeBelow?_of_notMem h.1,
      Option.map_none]

end

/-! ## Identities that a forest has -/

mutual

/-- An identity of a tree is that of one of its nodes. -/
lemma exists_find? {t : Tree NodeId} (h : n ∈ t.released) : ∃ u, t.find? n = some u := by
  cases t with
  | element m tag attrs hidden children =>
    rw [released_element, List.mem_append, List.mem_singleton] at h
    simp only [find?]
    split
    · exact ⟨_, rfl⟩
    · rename_i hne
      exact exists_findIn? (h.resolve_right (Ne.symm hne))
  | text m content => exact ⟨_, if_pos (List.mem_singleton.1 h).symm⟩

/-- An identity of a forest is that of one of its nodes. -/
lemma exists_findIn? {ts : List (Tree NodeId)} (h : n ∈ releasedOf ts) :
    ∃ u, findIn? n ts = some u := by
  cases ts with
  | nil => cases h
  | cons t ts =>
    rw [releasedOf_cons, List.mem_append] at h
    simp only [findIn?]
    split
    · exact ⟨_, rfl⟩
    · rename_i hnone
      refine h.elim exists_find? fun hts => ?_
      obtain ⟨u, hu⟩ := exists_findIn? hts
      rw [hnone] at hu
      cases hu

end

/-- Where no node is found there is none to change. -/
lemma updateIn?_of_findIn? (h : findIn? n ts = none) : updateIn? n f ts = none := by
  refine updateIn?_of_notMem fun hn => ?_
  obtain ⟨u, hu⟩ := exists_findIn? hn
  rw [h] at hu
  cases hu

/-! ## The one tree with an identity -/

/-- A node is found in the one tree that can have it. -/
lemma findIn?_middle (ht : n ∉ releasedOf ts) (hu : n ∉ releasedOf us) (t : Tree NodeId) :
    findIn? n (ts ++ t :: us) = t.find? n := by
  simp only [findIn?_append, findIn?, findIn?_of_notMem ht, findIn?_of_notMem hu, Option.or_none]

/-- A node is changed in the one tree that can have it. -/
lemma updateIn?_middle (ht : n ∉ releasedOf ts) (hu : n ∉ releasedOf us) (t : Tree NodeId) :
    updateIn? n f (ts ++ t :: us) = (t.update? n f).map fun t => ts ++ t :: us := by
  induction ts with
  | nil =>
    simp only [List.nil_append, updateIn?, updateIn?_of_notMem hu]
  | cons u ts ih =>
    simp only [releasedOf_cons, List.mem_append, not_or] at ht
    simp only [List.cons_append, updateIn?, ih ht.2, update?_of_notMem ht.1, Option.map_none]
    cases t.update? n f <;> rfl

/-- A tree is taken out from among others as a whole. -/
lemma takeIn?_middle_self (ht : n ∉ releasedOf ts) (hu : n ∉ releasedOf us) (h : t.label = n) :
    takeIn? n (ts ++ t :: us) = some (t, ts ++ us) := by
  induction ts with
  | nil => simp only [List.nil_append, takeIn?, takeIn?_of_notMem hu, if_pos h]
  | cons u ts ih =>
    simp only [releasedOf_cons, List.mem_append, not_or] at ht
    simp only [List.cons_append, takeIn?, ih ht.2]

/-- A node is taken out of the one tree that can have it below its top. -/
lemma takeIn?_middle_below (ht : n ∉ releasedOf ts) (hu : n ∉ releasedOf us) (h : t.label ≠ n) :
    takeIn? n (ts ++ t :: us) =
      (t.takeBelow? n).map fun (taken, t) => (taken, ts ++ t :: us) := by
  induction ts with
  | nil => simp only [List.nil_append, takeIn?, takeIn?_of_notMem hu, if_neg h]
  | cons u ts ih =>
    simp only [releasedOf_cons, List.mem_append, not_or] at ht
    have hne : u.label ≠ n := fun e => ht.1 (e ▸ label_mem_released u)
    simp only [List.cons_append, takeIn?, ih ht.2, if_neg hne, takeBelow?_of_notMem ht.1,
      Option.map_none]
    cases t.takeBelow? n <;> rfl

/-- The node itself is found under its identity. -/
@[simp]
lemma find?_self (t : Tree NodeId) : t.find? t.label = some t := by
  cases t <;> simp [find?, label]

/-- A tree is changed as a whole under its own identity. -/
@[simp]
lemma update?_self (t : Tree NodeId) : t.update? t.label f = some (f t) := by
  cases t <;> simp [update?, label]

/-! ## The last tree -/

/-- The last tree is taken out whatever stands before it. -/
lemma takeIn?_last (ts : List (Tree NodeId)) (t : Tree NodeId) :
    takeIn? t.label (ts ++ [t]) = some (t, ts) := by
  induction ts with
  | nil => simp [takeIn?]
  | cons u ts ih => simp only [List.cons_append, takeIn?, ih]

/-- The last tree is changed whatever stands before it. -/
lemma updateIn?_last (ts : List (Tree NodeId)) (t : Tree NodeId) :
    updateIn? t.label f (ts ++ [t]) = some (ts ++ [f t]) := by
  induction ts with
  | nil => simp [updateIn?]
  | cons u ts ih => simp only [List.cons_append, updateIn?, ih]

end TreeTemplate.Tree
