import TreeTemplate.Document.Arena
import TreeTemplate.Proofs.Forest.Supply

/-!
# Slots of an arena

What an arena holds is listed: each node that there is, with what is in its slot. The order of the
list does not matter. Filling a slot, emptying it and giving it to a new node are changes at the
front of the list, and nothing else in it changes.

Main statements:

* `Holds.put`, `Holds.clear`, `Holds.alloc` — what an arena holds after each of them.
-/

namespace TreeTemplate.Arena

variable {a : Arena} {n m : NodeId} {s s' : Slot} {held held' : List (NodeId × Slot)}

/-- The slot that is given out holds the new node, and the others hold what they held. -/
lemma node?_alloc (hfree : ∀ n ∈ a.free, n.index < a.slots.size) (data : NodeData) (m : NodeId) :
    (a.alloc data).2.node? m =
      if m = (a.alloc data).1 then some ⟨none, data, []⟩ else a.node? m := by
  obtain ⟨slots, free⟩ := a
  cases free with
  | nil =>
    obtain ⟨index⟩ := m
    simp only [alloc, node?, Array.getElem?_push, NodeId.mk.injEq]
    split <;> rfl
  | cons n free =>
    change (put ⟨slots, n :: free⟩ n _).node? m = if m = n then _ else _
    split
    · rename_i hm
      subst hm
      exact node?_put_self (hfree m List.mem_cons_self) _
    · rename_i hm
      exact node?_put_of_ne hm _

/-- The nodes of an arena are the listed ones, and none of them is listed twice. -/
structure Holds (a : Arena) (held : List (NodeId × Slot)) : Prop where
  nodup : (held.map Prod.fst).Nodup
  node?_eq_some : ∀ n s, a.node? n = some s ↔ (n, s) ∈ held

namespace Holds

/-- The order in which nodes are listed does not matter. -/
lemma perm (h : a.Holds held) (hp : held.Perm held') : a.Holds held' where
  nodup := (hp.map Prod.fst).nodup_iff.1 h.nodup
  node?_eq_some n s := (h.node?_eq_some n s).trans hp.mem_iff

/-- A listed node is in its slot. -/
lemma node? (h : a.Holds ((n, s) :: held)) : a.node? n = some s :=
  (h.node?_eq_some n s).2 List.mem_cons_self

/-- A node that is listed first is not listed again. -/
lemma ne (h : a.Holds ((n, s) :: held)) (hm : m ∈ held.map Prod.fst) : m ≠ n := by
  rintro rfl
  exact (List.nodup_cons.1 h.nodup).1 hm

/-- A slot that is not empty is that of a listed node. -/
lemma node?_isSome (h : a.Holds held) : (a.node? n).isSome ↔ n ∈ held.map Prod.fst := by
  rw [Option.isSome_iff_exists, List.mem_map]
  constructor
  · rintro ⟨s, hs⟩
    exact ⟨(n, s), (h.node?_eq_some n s).1 hs, rfl⟩
  · rintro ⟨⟨m, s⟩, hs, rfl⟩
    exact ⟨s, (h.node?_eq_some m s).2 hs⟩

/-- There are as many slots as nodes at least. -/
lemma length_le (h : a.Holds held) : held.length ≤ a.room := by
  have hmade : held.map Prod.fst ⊆ (List.range a.slots.size).map NodeId.mk := fun n hn => by
    obtain ⟨s, hs⟩ := Option.isSome_iff_exists.1 (h.node?_isSome.2 hn)
    exact (Supply.mem_made (s := a.supply)).2 (index_lt_of_node? hs)
  simpa [room] using (List.subperm_of_subset h.nodup hmade).length_le

/-- A node that is put in the place of a listed one is listed for it. -/
lemma put (h : a.Holds ((n, s) :: held)) (s' : Slot) :
    (a.put n (some s')).Holds ((n, s') :: held) where
  nodup := h.nodup
  node?_eq_some m t := by
    by_cases hm : m = n
    · subst hm
      rw [node?_put_self (index_lt_of_node? h.node?), Option.some.injEq, List.mem_cons,
        Prod.mk.injEq]
      constructor
      · rintro rfl
        exact .inl ⟨rfl, rfl⟩
      · rintro (⟨-, rfl⟩ | hmem)
        · rfl
        · exact absurd rfl (h.ne (List.mem_map_of_mem hmem))
    · rw [node?_put_of_ne hm, h.node?_eq_some]
      simp [hm]

/-- A listed node can be changed. -/
lemma modify? (h : a.Holds ((n, s) :: held)) (f : Slot → Slot) :
    ∃ a', a.modify? n f = some a' ∧ a'.Holds ((n, f s) :: held) ∧ a'.supply = a.supply :=
  ⟨a.put n (some (f s)), by rw [Arena.modify?, h.node?, Option.map_some], h.put (f s),
    supply_put a n _⟩

/-- A node whose slot is emptied is no longer listed. -/
lemma clear (h : a.Holds ((n, s) :: held)) : (a.put n none).Holds held where
  nodup := (List.nodup_cons.1 h.nodup).2
  node?_eq_some m t := by
    by_cases hm : m = n
    · subst hm
      rw [node?_put_self (index_lt_of_node? h.node?)]
      exact ⟨nofun, fun hmem => absurd rfl (h.ne (List.mem_map_of_mem hmem))⟩
    · rw [node?_put_of_ne hm, h.node?_eq_some]
      simp [hm]

/-- The free slots do not matter to what is held. -/
lemma free (h : a.Holds held) (free : List NodeId) : ({ a with free := free } : Arena).Holds held :=
  ⟨h.nodup, h.node?_eq_some⟩

/-- A new node is listed with those that there were. -/
lemma alloc (h : a.Holds held) (hs : a.supply.Sound (held.map Prod.fst)) (data : NodeData) :
    (a.alloc data).2.Holds (((a.alloc data).1, ⟨none, data, []⟩) :: held) := by
  have hnew := hs.take.nodup_append
  rw [← congrArg Prod.fst (supply_alloc a data)] at hnew
  have hnotMem : (a.alloc data).1 ∉ held.map Prod.fst := fun hmem =>
    (List.nodup_cons.1 hnew).1 (List.mem_append_left _ hmem)
  refine ⟨List.nodup_cons.2 ⟨hnotMem, h.nodup⟩, fun m t => ?_⟩
  have hmade : ∀ n ∈ a.free, n.index < a.slots.size := fun n hn =>
    (Supply.mem_made (s := a.supply)).1 (List.Perm.subset hs (List.mem_append_right _ hn))
  rw [node?_alloc hmade]
  split
  · rename_i hm
    subst hm
    simp only [Option.some.injEq, List.mem_cons, Prod.mk.injEq, true_and]
    constructor
    · rintro rfl
      exact .inl rfl
    · rintro (rfl | hmem)
      · rfl
      · exact absurd (List.mem_map_of_mem hmem) hnotMem
  · rename_i hm
    rw [h.node?_eq_some]
    simp [hm]

end Holds

end TreeTemplate.Arena
