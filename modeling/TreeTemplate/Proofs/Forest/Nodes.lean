import TreeTemplate.Document.Basic
import TreeTemplate.Proofs.Forest.Links

/-!
# Nodes of a filled context

A node of a filled context is a node of the tree that fills it, or it belongs to the context. In the
second case it is there whatever fills the context: itself, the identities directly below it, and
the node above it.

Main statements:

* `exists_plug_of_mem_nodes` — every node of a tree fills a context;
* `exists_of_mem_plug`, `parent?_plug_congr` — nodes of the context;
* `find?_of_mem_nodes`, `parent?_of_mem_children` — nodes of a tree that uses no identity twice.
-/

namespace TreeTemplate.Tree

variable {n : NodeId} {t u v c : Tree NodeId} {ts : List (Tree NodeId)} {C : Context}

/-- Other children leave the identity of a node as it is. -/
@[simp]
lemma label_setChildren (ts : List (Tree NodeId)) (t : Tree NodeId) :
    (t.setChildren ts).label = t.label := by
  cases t <;> rfl

/-- Other children leave the kind of a node as it is. -/
@[simp]
lemma isElement_setChildren (ts : List (Tree NodeId)) (t : Tree NodeId) :
    (t.setChildren ts).isElement = t.isElement := by
  cases t <;> rfl

/-- A node of several trees is one of one of them. -/
lemma mem_nodesOf : u ∈ nodesOf ts ↔ ∃ t ∈ ts, u ∈ t.nodes := by
  induction ts with
  | nil => simp [nodesOf]
  | cons t ts ih => simp [nodesOf, ih]

/-- A tree is one of its nodes. -/
lemma self_mem_nodes (t : Tree NodeId) : t ∈ t.nodes := by
  cases t <;> exact List.mem_cons_self

/-- Every node of a tree fills a context. -/
lemma exists_plug_of_mem_nodes (h : u ∈ t.nodes) : ∃ C : Context, t = C.plug u := by
  induction t using Tree.induct with
  | element m tag attrs hidden children ih =>
    rcases List.mem_cons.1 h with rfl | h
    · exact ⟨.top, rfl⟩
    obtain ⟨child, hchild, hu⟩ := mem_nodesOf.1 h
    obtain ⟨C, rfl⟩ := ih child hchild hu
    obtain ⟨before, after, rfl⟩ := List.append_of_mem hchild
    refine ⟨(Context.inside .top m tag attrs hidden before after).comp C, ?_⟩
    rw [Context.plug_comp]
    rfl
  | text m content =>
    obtain rfl := List.mem_singleton.1 h
    exact ⟨.top, rfl⟩

/-- A node of a tree is its top or stands below it. -/
lemma eq_or_mem_of_mem_nodes (h : u ∈ t.nodes) : u = t ∨ u ∈ nodesOf t.children := by
  cases t with
  | element m tag attrs hidden children => exact List.mem_cons.1 h
  | text m content => exact .inl (List.mem_singleton.1 h)

/-- The identity of a node of a tree is one of those of the tree. -/
lemma label_mem_of_mem_nodes (h : u ∈ t.nodes) : u.label ∈ t.released := by
  obtain ⟨C, rfl⟩ := exists_plug_of_mem_nodes h
  exact mem_released_plug.2 (.inl (label_mem_released u))

/-- The nodes of a tree are nodes of what it fills. -/
lemma nodes_subset_plug (C : Context) (t : Tree NodeId) : t.nodes ⊆ (C.plug t).nodes := by
  induction C generalizing t with
  | top => exact fun _ h => h
  | inside outer label tag attrs hidden before after ih =>
    refine fun v hv => ih _ (List.mem_cons_of_mem _ (mem_nodesOf.2 ⟨t, ?_, hv⟩))
    exact List.mem_append_right _ List.mem_cons_self

/-- A node of a filled context that is no node of the tree in it is there, with the same identities
directly below it, when another tree of the same top fills the context. -/
lemma exists_of_mem_plug (hl : u.label = t.label) (hv : v ∈ (C.plug t).nodes) :
    v ∈ t.nodes ∨ ∃ v' ∈ (C.plug u).nodes,
      v'.setChildren [] = v.setChildren [] ∧ v'.children.map label = v.children.map label := by
  induction C generalizing t u with
  | top => exact .inl hv
  | inside outer m tag attrs hidden before after ih =>
    let around (t : Tree NodeId) := element m tag attrs hidden (before ++ t :: after)
    have hlift {v : Tree NodeId} (h : v ∈ nodesOf (before ++ u :: after)) :
        v ∈ (outer.plug (around u)).nodes := nodes_subset_plug _ _ (List.mem_cons_of_mem _ h)
    rcases ih (u := around u) (t := around t) rfl hv with hv | hv
    · rcases List.mem_cons.1 hv with rfl | hv
      · refine .inr ⟨around u, nodes_subset_plug outer _ (self_mem_nodes _), rfl, ?_⟩
        simp [around, children, hl]
      obtain ⟨w, hw, hvw⟩ := mem_nodesOf.1 hv
      rcases List.mem_append.1 hw with hw | hw
      · exact .inr ⟨v, hlift (mem_nodesOf.2 ⟨w, List.mem_append_left _ hw, hvw⟩), rfl, rfl⟩
      rcases List.mem_cons.1 hw with rfl | hw
      · exact .inl hvw
      · refine .inr ⟨v, hlift (mem_nodesOf.2 ⟨w, List.mem_append_right _ ?_, hvw⟩), rfl, rfl⟩
        exact List.mem_cons_of_mem _ hw
    · exact .inr hv

/-- The parent of a node among trees depends on one of them by the parent in that one alone. -/
lemma parentIn?_append_congr {before after : List (Tree NodeId)}
    (h : t.parent? n = u.parent? n) :
    parentIn? n (before ++ t :: after) = parentIn? n (before ++ u :: after) := by
  induction before with
  | nil =>
    simp only [List.nil_append, parentIn?, h]
  | cons b before ih => simp only [List.cons_append, parentIn?, ih]

/-- The node above another one in a filled context is the same for all trees of one top in which it
is. -/
lemma parent?_plug_congr (C : Context) (hl : u.label = t.label) (h : t.parent? n = u.parent? n) :
    (C.plug t).parent? n = (C.plug u).parent? n := by
  induction C generalizing t u with
  | top => exact h
  | inside outer m tag attrs hidden before after ih =>
    refine ih rfl ?_
    simp only [parent?, List.any_append, List.any_cons, hl, parentIn?_append_congr h]

/-- Above a node of a child is the element itself, or what is above the node in the child. -/
lemma parent?_child {before after : List (Tree NodeId)} {m : NodeId} {tag : String}
    {attrs : List (String × String)} {hidden : Bool}
    (h : (releasedOf (before ++ t :: after)).Nodup) (hn : n ∈ t.released) :
    (element m tag attrs hidden (before ++ t :: after)).parent? n =
      if t.label = n then some m else t.parent? n := by
  rw [releasedOf_append, releasedOf_cons, List.nodup_append, List.nodup_append] at h
  have hbefore : n ∉ releasedOf before := fun hmem =>
    h.2.2 n hmem n (List.mem_append_left _ hn) rfl
  have hafter : n ∉ releasedOf after := fun hmem => h.2.1.2.2 n hn n hmem rfl
  simp [parent?, parentIn?_middle hbefore hafter, any_label_eq_false hbefore,
    any_label_eq_false hafter]

/-- Nothing is above the top of a tree in the tree. -/
lemma parent?_label_eq_none (h : t.released.Nodup) : t.parent? t.label = none := by
  cases t with
  | element m tag attrs hidden children =>
    rw [released_element, List.nodup_append] at h
    have hm : m ∉ releasedOf children := fun hm => h.2.2 m hm m List.mem_cons_self rfl
    rw [label, parent?, any_label_eq_false hm, parentIn?_of_notMem hm]
    rfl
  | text m content => rfl

/-! ## Nodes of one tree -/

mutual

/-- The identities of a tree are those of its nodes. -/
lemma released_perm_nodes (t : Tree NodeId) : t.released.Perm (t.nodes.map label) := by
  cases t with
  | element m tag attrs hidden children =>
    exact (List.perm_append_singleton _ _).trans ((releasedOf_perm_nodes children).cons m)
  | text m content => exact .refl _

/-- The identities of trees are those of their nodes. -/
lemma releasedOf_perm_nodes (ts : List (Tree NodeId)) :
    (releasedOf ts).Perm ((nodesOf ts).map label) := by
  cases ts with
  | nil => exact .refl _
  | cons t ts =>
    rw [releasedOf_cons, nodesOf, List.map_append]
    exact (released_perm_nodes t).append (releasedOf_perm_nodes ts)

end

/-- A node of a tree in which no identity is used twice is found under its own. -/
lemma find?_of_mem_nodes (h : t.released.Nodup) (hu : u ∈ t.nodes) : t.find? u.label = some u := by
  obtain ⟨C, rfl⟩ := exists_plug_of_mem_nodes hu
  have hnodup := (released_plug C u).nodup_iff.1 h
  have hC : u.label ∉ C.ids := fun hmem =>
    (List.nodup_append.1 hnodup).2.2 _ (label_mem_released u) _ hmem rfl
  rw [find?_plug hC, find?_self]

/-- A node of such a tree is the parent of its children. -/
lemma parent?_of_mem_children (h : t.released.Nodup) (hu : u ∈ t.nodes) (hc : c ∈ u.children) :
    t.parent? c.label = some u.label := by
  obtain ⟨C, rfl⟩ := exists_plug_of_mem_nodes hu
  cases u with
  | element m tag attrs hidden children =>
    obtain ⟨before, after, rfl⟩ := List.append_of_mem (show c ∈ children from hc)
    let D := Context.inside C m tag attrs hidden before after
    have hnodup := (released_plug D c).nodup_iff.1 h
    have hD : c.label ∉ D.ids := fun hmem =>
      (List.nodup_append.1 hnodup).2.2 _ (label_mem_released c) _ hmem rfl
    exact parent?_plug_child hD
  | text m content => cases hc

end TreeTemplate.Tree

namespace TreeTemplate.Document.Has

variable {d : Document} {C : Tree.Context} {t u : Tree NodeId} {ts rest : List (Tree NodeId)}

/-- A node of a document is found. -/
lemma find?_of_mem_nodes (h : d.Has ts) (hu : u ∈ Tree.nodesOf ts) : d.find? u.label = some u := by
  obtain ⟨t, ht, hu⟩ := Tree.mem_nodesOf.1 hu
  obtain ⟨C, rfl⟩ := Tree.exists_plug_of_mem_nodes hu
  obtain ⟨before, after, rfl⟩ := List.append_of_mem ht
  exact (h.perm List.perm_middle).find?

/-- A node of a filled context with an identity of the tree in it is a node of the tree. -/
lemma mem_nodes_of_label (h : d.Has (C.plug t :: rest)) (hu : u ∈ (C.plug t).nodes)
    (hl : u.label ∈ t.released) : u ∈ t.nodes := by
  obtain ⟨v, hv⟩ := Tree.exists_find? hl
  obtain ⟨D, rfl⟩ := Tree.exists_plug_of_find? hv
  have hv' : v ∈ (D.plug v).nodes := Tree.nodes_subset_plug D v (Tree.self_mem_nodes v)
  have hfind (w : Tree NodeId) (hw : w ∈ (C.plug (D.plug v)).nodes) :
      d.find? w.label = some w := h.find?_of_mem_nodes (List.mem_append_left _ hw)
  have hvl : v.label = u.label := Tree.find?_label hv
  have hvu : v = u :=
    Option.some.inj ((hvl ▸ hfind v (Tree.nodes_subset_plug C _ hv')).symm.trans (hfind u hu))
  exact hvu ▸ hv'

/-- The nodes of a document are those of the tree that begins with the document node. -/
lemma attached_eq (h : d.Has (C.plug t :: rest)) (hroot : (C.plug t).label = Document.root) :
    d.attached = (C.plug t).nodes := by
  have hfind : d.find? (C.plug t).label = some (C.plug t) :=
    (show d.Has (Tree.Context.top.plug (C.plug t) :: rest) from h).find?
  rw [Document.attached, ← hroot, hfind]
  rfl

/-- The node above a node of a tree is found in the tree. -/
lemma parent?_eq (h : d.Has (t :: rest)) {n : NodeId} (hn : n ∈ t.released) :
    d.parent? n = t.parent? n := by
  obtain ⟨before, after, e, -, hnot⟩ := h.exists_middle
  obtain ⟨hbefore, hafter⟩ := hnot n hn
  rw [Document.parent?, e, Tree.parentIn?_middle hbefore hafter]

end TreeTemplate.Document.Has
