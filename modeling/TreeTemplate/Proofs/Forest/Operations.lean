import TreeTemplate.Document.Basic
import TreeTemplate.Proofs.Forest.Context
import TreeTemplate.Proofs.Forest.Supply

/-!
# Operations on the forest of a document

What each operation of a document does to its trees. The trees are given in any order, the one that
is worked on in front and written as a filled context. An operation on a node that is there always
succeeds.

Main statements:

* `Has.find?`, `Has.update?` — looking and changing;
* `Has.detach?`, `Has.append?`, `Has.remove?` — taking out, putting in, removing;
* `Has.replaceChildren?`, `Has.setMarkup?`, `Has.clone?` — new nodes.
-/

namespace TreeTemplate.Document

open TreeTemplate.Tree (releasedOf)

variable {d : Document} {t u : Tree NodeId} {ts us rest : List (Tree NodeId)}
  {C : Tree.Context} {f : Tree NodeId → Tree NodeId}

/-- The document has the given trees, in some order, and its supply is sound for them. -/
structure Has (d : Document) (ts : List (Tree NodeId)) : Prop where
  trees : d.trees.Perm ts
  sound : d.supply.Sound (releasedOf ts)

/-- A node that is found can be changed. It is found as it was changed if it keeps its identity, and
a change that leaves it as it is leaves the document as it is. -/
lemma exists_update? {n : NodeId} (hn : d.find? n = some t) (hf : (f t).label = t.label) :
    ∃ d', d.update? n f = some d' ∧ d'.find? n = some (f t) ∧ (f t = t → d' = d) := by
  obtain ⟨before, C, after, hshows, e⟩ := Tree.exists_shows_of_findIn? hn
  have hl : t.label = n := Tree.findIn?_label hn
  refine ⟨{ d with trees := before ++ C.plug (f t) :: after }, ?_, (hshows _ (hf.trans hl)).1,
    fun hsame => ?_⟩
  · rw [update?, e, (hshows t hl).2 f]
    rfl
  · rw [hsame, ← e]

namespace Has

/-- It does not matter in which order the trees are. -/
lemma perm (h : d.Has ts) (hp : ts.Perm us) : d.Has us :=
  ⟨h.trees.trans hp, h.sound.perm (Tree.releasedOf_perm hp)⟩

/-- A tree stands somewhere among those of the document, and no other tree has its identities. -/
lemma exists_middle (h : d.Has (t :: rest)) :
    ∃ before after, d.trees = before ++ t :: after ∧ (before ++ after).Perm rest ∧
      ∀ n ∈ t.released, n ∉ releasedOf before ∧ n ∉ releasedOf after := by
  obtain ⟨before, after, e⟩ := List.append_of_mem (h.trees.mem_iff.2 List.mem_cons_self)
  have hrest : (before ++ after).Perm rest :=
    (List.perm_middle.symm.trans (e ▸ h.trees)).cons_inv
  refine ⟨before, after, e, hrest, fun n hn => ?_⟩
  have hsound := h.sound.perm ((Tree.releasedOf_perm hrest.symm).append_left t.released)
  have hnot : n ∉ releasedOf (before ++ after) :=
    fun hm => (List.nodup_append.1 hsound.nodup).2.2 n hn n hm rfl
  simpa using hnot

/-- Inside a tree, no two nodes share an identity. -/
lemma nodup_released (h : d.Has (t :: rest)) : t.released.Nodup :=
  (List.nodup_append.1 h.sound.nodup).1

/-- Every identity stands once in a tree and its context. -/
lemma nodup_plug (h : d.Has (C.plug t :: rest)) : (t.released ++ C.ids).Nodup :=
  (Tree.released_plug C t).nodup_iff.1 h.nodup_released

/-- An identity of a tree is none of its context. -/
lemma notMem_ids {n : NodeId} (h : d.Has (C.plug t :: rest)) (hn : n ∈ t.released) : n ∉ C.ids :=
  fun hm => (List.nodup_append.1 h.nodup_plug).2.2 n hn n hm rfl

/-- An identity of a tree is one of the tree in a context. -/
lemma mem_plug {n : NodeId} (hn : n ∈ t.released) : n ∈ (C.plug t).released :=
  Tree.mem_released_plug.2 (.inl hn)

/-! ## Looking and changing -/

/-- A node of the document is found under its identity. -/
lemma find? (h : d.Has (C.plug t :: rest)) : d.find? t.label = some t := by
  obtain ⟨before, after, e, -, hnot⟩ := h.exists_middle
  have hn := Tree.label_mem_released t
  obtain ⟨hbefore, hafter⟩ := hnot _ (mem_plug hn)
  rw [Document.find?, e, Tree.findIn?_middle hbefore hafter, Tree.find?_plug (h.notMem_ids hn),
    Tree.find?_self]

/-- A node that is changed is changed in place. -/
lemma update?_trees (h : d.Has (C.plug t :: rest)) :
    ∃ trees, d.update? t.label f = some { d with trees := trees } ∧
      trees.Perm (C.plug (f t) :: rest) := by
  obtain ⟨before, after, e, hrest, hnot⟩ := h.exists_middle
  have hn := Tree.label_mem_released t
  obtain ⟨hbefore, hafter⟩ := hnot _ (mem_plug hn)
  refine ⟨before ++ C.plug (f t) :: after, ?_, List.perm_middle.trans (hrest.cons _)⟩
  rw [Document.update?, e, Tree.updateIn?_middle hbefore hafter,
    Tree.update?_plug (h.notMem_ids hn), Tree.update?_self]
  rfl

/-- A tree in a context is exchanged for one with the same identities. -/
lemma released_plug_perm (ht : t.released.Perm u.released) :
    (releasedOf (C.plug t :: rest)).Perm (releasedOf (C.plug u :: rest)) := by
  simp only [Tree.releasedOf_cons]
  exact ((Tree.released_plug C t).trans
    ((ht.append_right C.ids).trans (Tree.released_plug C u).symm)).append_right _

/-- A change that keeps the identities of a node keeps the supply sound. -/
lemma update? (h : d.Has (C.plug t :: rest)) (hf : (f t).released.Perm t.released) :
    ∃ d', d.update? t.label f = some d' ∧ d'.Has (C.plug (f t) :: rest) := by
  obtain ⟨trees, e, hp⟩ := h.update?_trees (f := f)
  exact ⟨_, e, hp, h.sound.perm (released_plug_perm hf.symm)⟩

/-! ## Moving nodes -/

variable {m : NodeId} {tag : String} {attrs : List (String × String)} {hidden : Bool}

/-- A child that is taken out of its element becomes a tree of its own. -/
lemma detach? (h : d.Has (C.plug (.element m tag attrs hidden (ts ++ t :: us)) :: rest)) :
    ∃ d', d.detach? t.label = some d' ∧
      d'.Has (C.plug (.element m tag attrs hidden (ts ++ us)) :: t :: rest) := by
  let C' := Tree.Context.inside C m tag attrs hidden ts us
  have h' : d.Has (C'.plug t :: rest) := h
  obtain ⟨before, after, e, hrest, hnot⟩ := h'.exists_middle
  have hn := Tree.label_mem_released t
  have hC' := h'.notMem_ids hn
  obtain ⟨hbefore, hafter⟩ := hnot _ (mem_plug hn)
  refine ⟨{ d with trees :=
    (before ++ C.plug (.element m tag attrs hidden (ts ++ us)) :: after) ++ [t] }, ?_, ?_, ?_⟩
  · rw [Document.detach?, e,
      Tree.takeIn?_middle_below hbefore hafter (Tree.label_plug_inside hC')]
    rw [show C'.plug t = C.plug (.element m tag attrs hidden (ts ++ t :: us)) from rfl,
      Tree.takeBelow?_plug_child hC']
    rfl
  · refine List.perm_append_comm.trans (.trans ?_ (List.Perm.swap ..))
    exact (List.perm_middle.trans (hrest.cons _)).cons t
  · refine h.sound.perm (List.perm_iff_count.2 fun n => ?_)
    simp only [Tree.releasedOf_cons, List.count_append, (Tree.released_plug C _).count_eq,
      Tree.released_element, Tree.releasedOf_append, List.count_cons]
    omega

/-- A node at the top of a tree that is taken out becomes the last one. -/
lemma detach?_top (h : d.Has (t :: rest)) :
    ∃ d', d.detach? t.label = some d' ∧ d'.Has (t :: rest) := by
  obtain ⟨before, after, e, hrest, hnot⟩ := h.exists_middle
  obtain ⟨hbefore, hafter⟩ := hnot _ (Tree.label_mem_released t)
  refine ⟨{ d with trees := (before ++ after) ++ [t] }, ?_,
    (List.perm_append_singleton _ _).trans (hrest.cons _), h.sound⟩
  rw [Document.detach?, e, Tree.takeIn?_middle_self hbefore hafter rfl]
  rfl

/-- A tree that is put into an element stands behind the children it has. -/
lemma append? (h : d.Has (t :: C.plug (.element m tag attrs hidden ts) :: rest)) :
    ∃ d', d.append? m t.label = some d' ∧
      d'.Has (C.plug (.element m tag attrs hidden (ts ++ [t])) :: rest) := by
  obtain ⟨before, after, e, hrest, hnot⟩ := h.exists_middle
  obtain ⟨hbefore, hafter⟩ := hnot _ (Tree.label_mem_released t)
  -- without the tree, the element stands among those that are left
  have hsound : Has ⟨before ++ after, d.supply.give t.released⟩
      (C.plug (.element m tag attrs hidden ts) :: rest) := ⟨hrest, h.sound.give⟩
  obtain ⟨trees, hup, hperm⟩ := hsound.update?_trees
    (f := fun u => u.setChildren (u.children ++ [t]))
  have hfind := hsound.find?
  refine ⟨⟨trees, d.supply⟩, ?_, hperm, ?_⟩
  · have hup' : Tree.updateIn? m (fun u => u.setChildren (u.children ++ [t])) (before ++ after) =
        some trees := by
      simp only [Document.update?, Tree.label, Option.map_eq_some_iff] at hup
      obtain ⟨_, hup, e⟩ := hup
      rw [hup]
      exact congrArg some (congrArg Document.trees e)
    have hfind' : Tree.findIn? m (before ++ after) =
        some (.element m tag attrs hidden ts) := hfind
    simp [Document.append?, e, Tree.takeIn?_middle_self hbefore hafter rfl, hfind',
      Tree.isElement, hup']
  · refine h.sound.perm (List.perm_iff_count.2 fun n => ?_)
    simp only [Tree.releasedOf_cons, List.count_append, (Tree.released_plug C _).count_eq,
      Tree.released_element, Tree.releasedOf_append,
      Tree.releasedOf_nil, List.count_cons, List.count_nil]
    omega

/-- A tree that is removed gives its identities back. -/
lemma remove? (h : d.Has (t :: rest)) : ∃ d', d.remove? t.label = some d' ∧ d'.Has rest := by
  obtain ⟨before, after, e, hrest, hnot⟩ := h.exists_middle
  obtain ⟨hbefore, hafter⟩ := hnot _ (Tree.label_mem_released t)
  refine ⟨⟨before ++ after, d.supply.give t.released⟩, ?_, hrest, h.sound.give⟩
  rw [Document.remove?, e, Tree.takeIn?_middle_self hbefore hafter rfl]
  rfl

/-! ## New nodes -/

/-- A planted tree is a tree of its own, with the shape of what was planted. -/
lemma plant {ι : Type} (h : d.Has ts) (t : Tree ι) :
    ∃ u d', d.plant t = (u.label, d') ∧ u.bare = t.bare ∧ d'.Has (u :: ts) :=
  ⟨(d.supply.plant t).1, ⟨d.trees ++ [(d.supply.plant t).1], (d.supply.plant t).2⟩, rfl,
    Supply.plant_bare d.supply t,
    (List.perm_append_singleton _ _).trans (h.trees.cons _), h.sound.plant t⟩

/-- A copy of a node is a tree of its own, with the shape of the node. -/
lemma clone? (h : d.Has (C.plug t :: rest)) :
    ∃ u d', d.clone? t.label true = some (u.label, d') ∧ u.bare = t.bare ∧
      d'.Has (u :: C.plug t :: rest) := by
  obtain ⟨u, d', e, hbare, h'⟩ := h.plant t
  exact ⟨u, d', by rw [Document.clone?, h.find?, Option.map_some, if_pos rfl, e], hbare, h'⟩

/-! ## The content of an element -/

/-- The children for which a test holds are removed with everything below them. -/
lemma removeChildrenWhere? (h : d.Has (C.plug (.element m tag attrs hidden ts) :: rest))
    (test : Tree NodeId → Bool) :
    ∃ d', d.removeChildrenWhere? m test = some d' ∧
      d'.Has (C.plug (.element m tag attrs hidden (ts.filter fun t => !test t)) :: rest) := by
  obtain ⟨trees, hup, hperm⟩ := h.update?_trees
    (f := fun t => t.setChildren (ts.filter fun t => !test t))
  refine ⟨⟨trees, d.supply.give (releasedOf (ts.filter test))⟩, ?_, hperm, ?_⟩
  · have hup' : d.update? m (fun t => t.setChildren (ts.filter fun t => !test t)) =
        some { d with trees := trees } := hup
    have hfind : d.find? m = some (.element m tag attrs hidden ts) := h.find?
    simp only [Document.removeChildrenWhere?, hfind, Option.bind_eq_bind, Option.bind_some,
      Tree.children, List.partition_eq_filter_filter]
    rw [show (not ∘ test) = fun t => !test t from rfl, hup']
    rfl
  · refine Supply.Sound.give (h.sound.perm ?_)
    have hsplit := (Tree.releasedOf_perm (List.filter_append_perm test ts)).symm
    rw [Tree.releasedOf_append] at hsplit
    refine List.perm_iff_count.2 fun n => ?_
    simp only [Tree.releasedOf_cons, List.count_append, (Tree.released_plug C _).count_eq,
      Tree.released_element, hsplit.count_eq]
    omega

/-- Some of the nodes directly below a node are removed; nothing is below a text. -/
lemma removeChildrenWhere?_plug (h : d.Has (C.plug t :: rest)) (test : Tree NodeId → Bool) :
    ∃ d', d.removeChildrenWhere? t.label test = some d' ∧
      d'.Has (C.plug (t.setChildren (t.children.filter fun u => !test u)) :: rest) := by
  cases t with
  | element m tag attrs hidden children => exact h.removeChildrenWhere? test
  | text m content =>
    obtain ⟨d', e, hd'⟩ := h.update? (f := fun t => t.setChildren []) (.refl _)
    refine ⟨{ d' with supply := d'.supply.give [] }, ?_, hd'.trees, hd'.sound⟩
    have hfind := h.find?
    simp only [Document.removeChildrenWhere?, hfind, Option.bind_eq_bind, Option.bind_some,
      Tree.children, List.partition_eq_filter_filter, List.filter_nil, e]
    rfl

/-- Planted trees take the place of everything below an element. -/
lemma replaceChildren? {ι : Type} (h : d.Has (C.plug (.element m tag attrs hidden ts) :: rest))
    (us : List (Tree ι)) :
    ∃ (planted : List (Tree NodeId)) (d' : Document), d.replaceChildren? m us = some d' ∧
      Tree.relabelAll (fun _ => ()) planted = Tree.relabelAll (fun _ => ()) us ∧
      d'.Has (C.plug (.element m tag attrs hidden planted) :: rest) := by
  let supply := d.supply.give (releasedOf ts)
  let planted := (supply.plantAll us).1
  obtain ⟨trees, hup, hperm⟩ := h.update?_trees (f := fun t => t.setChildren planted)
  refine ⟨planted, ⟨trees, (supply.plantAll us).2⟩, ?_, Supply.plantAll_bare supply us, hperm, ?_⟩
  · have hup' : d.update? m (fun t => t.setChildren planted) =
        some { d with trees := trees } := hup
    have hfind : d.find? m = some (.element m tag attrs hidden ts) := h.find?
    simp only [Document.replaceChildren?, hfind, Option.bind_eq_bind, Option.bind_some,
      Tree.isElement, Tree.children, if_true]
    rw [show (supply.plantAll us).1 = planted from rfl, hup']
    rfl
  · have hgive : supply.Sound (C.ids ++ m :: releasedOf rest) := by
      refine Supply.Sound.give (h.sound.perm (List.perm_iff_count.2 fun n => ?_))
      simp only [Tree.releasedOf_cons, List.count_append, (Tree.released_plug C _).count_eq,
        Tree.released_element, List.count_cons, List.count_nil]
      omega
    refine (hgive.plantAll us).perm (List.perm_iff_count.2 fun n => ?_)
    simp only [Tree.releasedOf_cons, List.count_append, (Tree.released_plug C _).count_eq,
      Tree.released_element, List.count_cons, List.count_nil, planted]
    omega

/-- Markup takes the place of everything below an element, and nothing is left there where the
markup is not accepted. -/
lemma setMarkup? (h : d.Has (C.plug (.element m tag attrs hidden ts) :: rest)) (markup : String) :
    ∃ (planted : List (Tree NodeId)) (d' : Document),
      d.setMarkup? m markup = some (d', (Markup.read markup).fault?) ∧
      Tree.relabelAll (fun _ => ()) planted =
        (match (Markup.read markup).fault? with
          | none => Tree.relabelAll (fun _ => ()) (Markup.read markup).trees
          | some _ => []) ∧
      d'.Has (C.plug (.element m tag attrs hidden planted) :: rest) := by
  obtain ⟨planted, d', e, hbare, h'⟩ := h.replaceChildren? (Markup.read markup).trees
  cases hfault : (Markup.read markup).fault? with
  | none => exact ⟨planted, d', by simp [Document.setMarkup?, e, hfault], hbare, h'⟩
  | some fault =>
    obtain ⟨d'', e', h''⟩ := h'.removeChildrenWhere? fun _ => true
    refine ⟨[], d'', ?_, rfl, by simpa using h''⟩
    simp [Document.setMarkup?, e, hfault, Document.removeChildren?, e']

end Has

end TreeTemplate.Document
