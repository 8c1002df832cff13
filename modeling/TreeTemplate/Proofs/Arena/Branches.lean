import TreeTemplate.Proofs.Arena.Slots

/-!
# Branches

A branch is a node with what hangs from it, a text as well as an element. The slots of a branch are
what an arena holds for its nodes. A node of a branch is reached through what is around it, a branch
with a hole; the slots of a filled one are those of the branch in the hole and of what is around it.

Main statements:

* `slots_plug` — the slots of a filled context;
* `exists_plug` — every node of a branch fills a context;
* `parent_mem`, `child_mem` — the links of a branch belong together.
-/

namespace TreeTemplate

/-- A node with what hangs from it. -/
inductive Branch where
  | node (label : NodeId) (data : NodeData) (children : List Branch)

namespace Branch

/-- The identity of the node that a branch begins with. -/
def label : Branch → NodeId
  | node n _ _ => n

/-- What the node is that a branch begins with. -/
def data : Branch → NodeData
  | node _ data _ => data

/-- What hangs from the node that a branch begins with. -/
def children : Branch → List Branch
  | node _ _ children => children

mutual

/-- What an arena holds for the nodes of a branch that hangs from `parent`. -/
def slots (parent : Option NodeId) : Branch → List (NodeId × Slot)
  | node n data children =>
    (n, ⟨parent, data, children.map label⟩) :: slotsOf (some n) children

/-- What an arena holds for the nodes of branches side by side. -/
def slotsOf (parent : Option NodeId) : List Branch → List (NodeId × Slot)
  | [] => []
  | r :: rs => r.slots parent ++ slotsOf parent rs

end

mutual

/-- The identities of a branch in the order in which they are given back. -/
def ids : Branch → List NodeId
  | node n _ children => idsOf children ++ [n]

/-- The identities of branches side by side in the order in which they are given back. -/
def idsOf : List Branch → List NodeId
  | [] => []
  | r :: rs => r.ids ++ idsOf rs

end

variable {n m p : NodeId} {s : Slot} {r u : Branch} {rs us : List Branch} {q : Option NodeId}
  {data : NodeData}

/-- A branch begins with its node. -/
@[simp]
lemma label_node (n : NodeId) (data : NodeData) (rs : List Branch) :
    (node n data rs).label = n := rfl

/-- The identities of a branch are those of what hangs from its node, and that of the node behind
them. -/
@[simp]
lemma ids_node (n : NodeId) (data : NodeData) (rs : List Branch) :
    (node n data rs).ids = idsOf rs ++ [n] := by
  rw [ids]

/-- No branches have no identities. -/
@[simp]
lemma idsOf_nil : idsOf [] = [] := by
  rw [idsOf]

/-- The identities of several branches are those of the first and those of the others. -/
@[simp]
lemma idsOf_cons (r : Branch) (rs : List Branch) : idsOf (r :: rs) = r.ids ++ idsOf rs := by
  rw [idsOf]

/-- The identities of several branches are those of the first ones and those of the others. -/
@[simp]
lemma idsOf_append (rs us : List Branch) : idsOf (rs ++ us) = idsOf rs ++ idsOf us := by
  induction rs with
  | nil => rfl
  | cons r rs ih => simp [ih]

/-- The slots of a branch are that of its node and those of what hangs from it. -/
@[simp]
lemma slots_node (q : Option NodeId) (n : NodeId) (data : NodeData) (rs : List Branch) :
    (node n data rs).slots q = (n, ⟨q, data, rs.map label⟩) :: slotsOf (some n) rs := by
  rw [slots]

/-- No branches have no slots. -/
@[simp]
lemma slotsOf_nil (q : Option NodeId) : slotsOf q [] = [] := by
  rw [slotsOf]

/-- The slots of several branches are those of the first and those of the others. -/
@[simp]
lemma slotsOf_cons (q : Option NodeId) (r : Branch) (rs : List Branch) :
    slotsOf q (r :: rs) = r.slots q ++ slotsOf q rs := by
  rw [slotsOf]

/-- The slots of several branches are those of the first ones and those of the others. -/
@[simp]
lemma slotsOf_append (q : Option NodeId) (rs us : List Branch) :
    slotsOf q (rs ++ us) = slotsOf q rs ++ slotsOf q us := by
  induction rs with
  | nil => rfl
  | cons r rs ih => simp [ih]

/-- Branches in another order have the same slots in another order. -/
lemma slotsOf_perm (h : rs.Perm us) : (slotsOf q rs).Perm (slotsOf q us) := by
  induction h with
  | nil => exact .refl _
  | cons r _ ih => exact ih.append_left (r.slots q)
  | swap r u rs =>
    simp only [slotsOf_cons, ← List.append_assoc]
    exact List.perm_append_comm.append_right _
  | trans _ _ ih ih' => exact ih.trans ih'

mutual

/-- The slots of a branch are those of its identities. -/
lemma slots_ids (q : Option NodeId) : ∀ r : Branch, ((r.slots q).map Prod.fst).Perm r.ids
  | node n data children => by
    simp only [slots_node, List.map_cons, ids_node]
    exact ((slotsOf_ids (some n) children).cons n).trans (List.perm_append_singleton n _).symm

/-- The slots of several branches have the identities of the branches, in another order. -/
lemma slotsOf_ids (q : Option NodeId) :
    ∀ rs : List Branch, ((slotsOf q rs).map Prod.fst).Perm (idsOf rs)
  | [] => .refl _
  | r :: rs => by
    simp only [slotsOf_cons, List.map_append, idsOf_cons]
    exact (slots_ids q r).append (slotsOf_ids q rs)

end

/-- Branches in another order have the same identities in another order. -/
lemma idsOf_perm (h : rs.Perm us) : (idsOf rs).Perm (idsOf us) :=
  (slotsOf_ids none rs).symm.trans (((slotsOf_perm h).map Prod.fst).trans (slotsOf_ids none us))

/-- The node that a branch begins with is in the branch. -/
lemma label_mem_ids (r : Branch) : r.label ∈ r.ids := by
  cases r
  simp [label]

/-- The nodes that branches begin with are some of those in them. -/
lemma map_label_sublist (rs : List Branch) : (rs.map label).Sublist (idsOf rs) := by
  induction rs with
  | nil => exact .slnil
  | cons r rs ih => exact (List.singleton_sublist.2 (label_mem_ids r)).append ih

/-! ## Contexts -/

/-- A branch with a hole in the place of a branch. -/
inductive Context where
  /-- Nothing is around the hole. -/
  | top
  /-- The hole is between branches that hang from a node, which fills the hole of `outer`. -/
  | inside (outer : Context) (label : NodeId) (data : NodeData) (before after : List Branch)

namespace Context

/-- The branch that fills the hole, with what is around it. -/
def plug : Context → Branch → Branch
  | top, r => r
  | inside outer n data before after, r => outer.plug (node n data (before ++ r :: after))

/-- The node from which what fills the hole hangs. -/
def above : Context → Option NodeId
  | top => none
  | inside _ n _ _ _ => some n

/-- What an arena holds for the nodes around the hole when a node `n` fills it. -/
def slots (n : NodeId) : Context → List (NodeId × Slot)
  | top => []
  | inside outer m data before after =>
    (m, ⟨outer.above, data, before.map label ++ n :: after.map label⟩) ::
      (slotsOf (some m) before ++ slotsOf (some m) after ++ outer.slots m)

/-- The identities of the nodes around the hole. -/
def ids : Context → List NodeId
  | top => []
  | inside outer m _ before after => idsOf before ++ idsOf after ++ m :: outer.ids

/-- A context whose hole is filled by another one. -/
def comp (outer : Context) : Context → Context
  | top => outer
  | inside inner n data before after => inside (outer.comp inner) n data before after

/-- A branch in a context within a context is a branch in the two one after the other. -/
lemma plug_comp (outer inner : Context) (r : Branch) :
    (outer.comp inner).plug r = outer.plug (inner.plug r) := by
  induction inner generalizing r with
  | top => rfl
  | inside inner n data before after ih => exact ih _

end Context

/-- The slots of a filled context are those of the branch in the hole and those around it. -/
lemma slots_plug (C : Context) (r : Branch) :
    ((C.plug r).slots none).Perm (r.slots C.above ++ C.slots r.label) := by
  induction C generalizing r with
  | top => simp [Context.plug, Context.slots, Context.above]
  | inside outer m data before after ih =>
    refine (ih _).trans (List.perm_iff_count.2 fun x => ?_)
    simp only [Context.above, Context.slots, label, slots_node, slotsOf_append, slotsOf_cons,
      List.map_append, List.map_cons, List.count_append, List.count_cons]
    omega

/-- The identities of a filled context are those of the branch in the hole and those around it. -/
lemma ids_plug (C : Context) (r : Branch) : (C.plug r).ids.Perm (r.ids ++ C.ids) := by
  induction C generalizing r with
  | top => simp [Context.plug, Context.ids]
  | inside outer m data before after ih =>
    refine (ih _).trans (List.perm_iff_count.2 fun x => ?_)
    simp only [Context.ids, ids_node, idsOf_append, idsOf_cons, List.count_append,
      List.count_cons, List.count_nil]
    omega

/-- What fills a hole can be exchanged for a branch that begins with the same node without the top
becoming another one. -/
lemma plug_top (C : Context) (hl : u.label = r.label) (he : u.data.isElement = r.data.isElement) :
    (C.plug u).label = (C.plug r).label ∧
      (C.plug u).data.isElement = (C.plug r).data.isElement := by
  induction C generalizing r u with
  | top => exact ⟨hl, he⟩
  | inside outer m data before after ih => exact ih rfl rfl

mutual

/-- A node of a branch fills a context. -/
lemma exists_plug {r : Branch} (h : n ∈ r.ids) :
    ∃ (C : Context) (u : Branch), r = C.plug u ∧ u.label = n := by
  cases r with
  | node m data children =>
    rw [ids_node, List.mem_append, List.mem_singleton] at h
    rcases h with h | rfl
    · obtain ⟨before, C, u, after, rfl, hu⟩ := exists_plugOf h
      exact ⟨(Context.inside .top m data before after).comp C, u,
        (Context.plug_comp (.inside .top m data before after) C u).symm, hu⟩
    · exact ⟨.top, _, rfl, rfl⟩

/-- A node of branches side by side fills a context in one of them. -/
lemma exists_plugOf {rs : List Branch} (h : n ∈ idsOf rs) :
    ∃ (before : List Branch) (C : Context) (u : Branch) (after : List Branch),
      rs = before ++ C.plug u :: after ∧ u.label = n := by
  cases rs with
  | nil => cases h
  | cons r rs =>
    rw [idsOf_cons, List.mem_append] at h
    rcases h with h | h
    · obtain ⟨C, u, rfl, hu⟩ := exists_plug h
      exact ⟨[], C, u, rs, rfl, hu⟩
    · obtain ⟨before, C, u, after, rfl, hu⟩ := exists_plugOf h
      exact ⟨r :: before, C, u, after, rfl, hu⟩

end

/-! ## Links -/

mutual

/-- A node that hangs from another one in a branch is among those below it. -/
lemma parent_mem {q : Option NodeId} {r : Branch} (h : (n, s) ∈ r.slots q) :
    (n = r.label ∧ s.parent = q) ∨
      ∃ p t, (p, t) ∈ r.slots q ∧ s.parent = some p ∧ n ∈ t.children := by
  cases r with
  | node m data children =>
    rw [slots_node, List.mem_cons, Prod.mk.injEq] at h
    rcases h with ⟨rfl, rfl⟩ | h
    · exact .inl ⟨rfl, rfl⟩
    · right
      rcases parent_memOf h with ⟨hn, hs⟩ | ⟨p, t, ht, hs, hn⟩
      · exact ⟨m, _, List.mem_cons_self, hs, hn⟩
      · exact ⟨p, t, List.mem_cons_of_mem _ ht, hs, hn⟩

/-- A slot of several branches is that of a node they begin with, or it hangs from one that lists
it. -/
lemma parent_memOf {q : Option NodeId} {rs : List Branch} (h : (n, s) ∈ slotsOf q rs) :
    (n ∈ rs.map label ∧ s.parent = q) ∨
      ∃ p t, (p, t) ∈ slotsOf q rs ∧ s.parent = some p ∧ n ∈ t.children := by
  cases rs with
  | nil => cases h
  | cons r rs =>
    rw [slotsOf_cons, List.mem_append] at h
    rcases h with h | h
    · rcases parent_mem h with ⟨rfl, hs⟩ | ⟨p, t, ht, hs⟩
      · exact .inl ⟨List.mem_cons_self, hs⟩
      · exact .inr ⟨p, t, List.mem_append_left _ ht, hs⟩
    · rcases parent_memOf h with ⟨hn, hs⟩ | ⟨p, t, ht, hs⟩
      · exact .inl ⟨List.mem_cons_of_mem _ hn, hs⟩
      · exact .inr ⟨p, t, List.mem_append_right _ ht, hs⟩

end

/-- The nodes that branches begin with hang from where the branches do. -/
lemma exists_slot_of_mem (h : n ∈ rs.map label) : ∃ s, (n, s) ∈ slotsOf q rs ∧ s.parent = q := by
  obtain ⟨r, hr, rfl⟩ := List.mem_map.1 h
  obtain ⟨before, after, rfl⟩ := List.append_of_mem hr
  cases r with
  | node n data children =>
    exact ⟨⟨q, data, children.map label⟩, by simp [label], rfl⟩

mutual

/-- A node below another one in a branch hangs from it. -/
lemma child_mem {q : Option NodeId} {r : Branch} (h : (p, s) ∈ r.slots q) (hn : n ∈ s.children) :
    ∃ t, (n, t) ∈ r.slots q ∧ t.parent = some p := by
  cases r with
  | node m data children =>
    rw [slots_node, List.mem_cons, Prod.mk.injEq] at h
    rcases h with ⟨rfl, rfl⟩ | h
    · obtain ⟨t, ht, hp⟩ := exists_slot_of_mem (q := some p) hn
      exact ⟨t, List.mem_cons_of_mem _ ht, hp⟩
    · obtain ⟨t, ht, hp⟩ := child_memOf h hn
      exact ⟨t, List.mem_cons_of_mem _ ht, hp⟩

/-- What a slot of several branches lists has a slot there, which hangs from it. -/
lemma child_memOf {q : Option NodeId} {rs : List Branch} (h : (p, s) ∈ slotsOf q rs)
    (hn : n ∈ s.children) :
    ∃ t, (n, t) ∈ slotsOf q rs ∧ t.parent = some p := by
  cases rs with
  | nil => cases h
  | cons r rs =>
    rw [slotsOf_cons, List.mem_append] at h
    rcases h with h | h
    · obtain ⟨t, ht, hp⟩ := child_mem h hn
      exact ⟨t, List.mem_append_left _ ht, hp⟩
    · obtain ⟨t, ht, hp⟩ := child_memOf h hn
      exact ⟨t, List.mem_append_right _ ht, hp⟩

end

end Branch

end TreeTemplate
