import TreeTemplate.Proofs.Anchored.Edits
import TreeTemplate.Proofs.Attributes.Declared
import TreeTemplate.Proofs.Courses.Operators
import TreeTemplate.Proofs.Follow.Template
import TreeTemplate.Proofs.Forest.Names

/-!
# Elements in their surroundings

A walk through an element that no jump leaves changes nothing around the element. What is around it
is a context, which stays the same, and so do the templates that are stashed for the elements of the
context: they are tops of other trees, and of these none is put into the document and some may be
removed.

Main statements:

* `StandsIn.editNode`, `StandsIn.forgetBelow`, `StandsIn.appendCopy`, `StandsIn.stashTemplates` —
  what is done at an element changes only what is at and below it;
* `StandsIn.enter`, `StandsIn.leave` — the surroundings of a child of the element.
-/

namespace TreeTemplate

namespace Tree

variable {ι κ : Type} {d : Dialect} {t : Tree ι} {ts : List (Tree ι)}

/-- No element of a tree is left by a jump. -/
def JumpFree (d : Dialect) (t : Tree ι) : Prop :=
  ∀ u ∈ t.nodes, u.head.JumpFree d

/-- A text is left by no jump. -/
lemma jumpFree_text (label : ι) (content : String) : (text label content).JumpFree d := by
  simp [JumpFree, nodes, Head.JumpFree, head, Tree.attrs]

/-- An element is not left by a jump, nor is anything below it. -/
lemma jumpFree_iff : t.JumpFree d ↔ t.head.JumpFree d ∧ ∀ u ∈ t.children, u.JumpFree d := by
  cases t with
  | element label tag attrs hidden children =>
    simp only [JumpFree, nodes, nodesOf_eq_flatMap, List.mem_cons, List.mem_flatMap,
      forall_eq_or_imp, Tree.children]
    refine and_congr_right' ⟨fun h t ht u hu => h u ⟨t, ht, hu⟩, fun h u hu => ?_⟩
    obtain ⟨t, ht, hu⟩ := hu
    exact h t ht u hu
  | text label content => simp [JumpFree, nodes, Tree.children]

/-- Labels do not count for jumps. -/
lemma jumpFree_relabel (f : ι → κ) (t : Tree ι) :
    (t.relabel f).JumpFree d ↔ t.JumpFree d := by
  simp [JumpFree, nodes_relabel]

/-- What is below an element has other identities than the element. -/
lemma label_notMem_elementsBackward {t : Tree NodeId} (h : t.released.Nodup) :
    t.label ∉ t.elementsBackward := by
  cases t with
  | element m tag attrs hidden children =>
    rw [released_element, List.nodup_append] at h
    exact fun hm => h.2.2 m (elementsBackwardOf_subset children hm) m List.mem_cons_self rfl
  | text m content => exact List.not_mem_nil

end Tree

namespace Walk

variable {s s' : State} {n : NodeId} {t u : Tree NodeId} {ts rest : List (Tree NodeId)}

/-- An element, what is around it in the tree of the document, and what is held for elements of the
context and for the element itself. -/
structure Surroundings where
  dialect : Dialect
  root : NodeId
  context : Tree.Context
  node : NodeId
  held : List (NodeId × Stored)
  keys : ∀ entry ∈ held, entry.1 ∈ context.ids ∨ entry.1 = node

namespace Surroundings

/-- The surroundings of an element for which something is held as well. -/
def own (φ : Surroundings) (stored : Stored) : Surroundings where
  dialect := φ.dialect
  root := φ.root
  context := φ.context
  node := φ.node
  held := (φ.node, stored) :: φ.held
  keys entry hentry := (List.mem_cons.1 hentry).elim (fun e => .inr (e ▸ rfl)) (φ.keys entry)

/-- The surroundings of a child of an element. -/
def child (φ : Surroundings) (tag : String) (attrs : List (String × String)) (hidden : Bool)
    (before after : List (Tree NodeId)) (n : NodeId) : Surroundings where
  dialect := φ.dialect
  root := φ.root
  context := φ.context.inside φ.node tag attrs hidden before after
  node := n
  held := φ.held
  keys entry hentry := by
    refine .inl (List.mem_append_right _ (List.mem_cons.2 ?_))
    exact (φ.keys entry hentry).symm

end Surroundings

variable {φ : Surroundings}

/-- A tree stands in surroundings: with the context it is the tree of the root, no jump leaves any
other tree of the document, and what is held is stashed. -/
structure StandsIn (φ : Surroundings) (s : State) (t : Tree NodeId) : Prop where
  trees : ∃ rest, Anchors s [φ.root] (φ.context.plug t :: rest) ∧ ∀ u ∈ rest, u.JumpFree φ.dialect
  top : (φ.context.plug t).label = φ.root
  label : t.label = φ.node
  element : t.isElement = true
  held : ∀ entry ∈ φ.held, entry ∈ s.stash.entries

namespace StandsIn

/-- What stands in the surroundings is an element. -/
lemma exists_element (h : StandsIn φ s t) :
    ∃ tag attrs hidden children, t = .element φ.node tag attrs hidden children := by
  have hl := h.label
  have he := h.element
  cases t with
  | element m tag attrs hidden children => exact ⟨tag, attrs, hidden, children, hl ▸ rfl⟩
  | text => cases he

/-- The element that stands in the surroundings is found. -/
lemma find? (h : StandsIn φ s t) : s.document.find? φ.node = some t := by
  obtain ⟨rest, hs, -⟩ := h.trees
  exact h.label ▸ hs.document.find?

/-- Every identity stands once in the element and its surroundings. -/
lemma nodup (h : StandsIn φ s t) : (t.released ++ φ.context.ids).Nodup := by
  obtain ⟨rest, hs, -⟩ := h.trees
  exact hs.document.nodup_plug

/-- Another element of the same identity may take the place of the one that stands in the
surroundings. -/
lemma exchange (h : StandsIn φ s t) (hs : Anchors s' [φ.root] (φ.context.plug u :: rest))
    (hrest : ∀ v ∈ rest, v.JumpFree φ.dialect) (hl : u.label = t.label)
    (he : u.isElement = t.isElement) (hheld : ∀ entry ∈ φ.held, entry ∈ s'.stash.entries) :
    StandsIn φ s' u where
  trees := ⟨rest, hs, hrest⟩
  top := (Tree.plug_top φ.context hl he).1.trans h.top
  label := hl.trans h.label
  element := he.trans h.element
  held := hheld

/-- Only the document and the stash count. -/
lemma congr (h : StandsIn φ s t) (hd : s'.document = s.document) (hs : s'.stash = s.stash) :
    StandsIn φ s' t := by
  obtain ⟨rest, hanchors, hrest⟩ := h.trees
  exact h.exchange (hanchors.congr hd hs) hrest rfl rfl (hs ▸ h.held)

/-! ## Changes at the element -/

/-- The element itself is changed. -/
lemma editNode (h : StandsIn φ s t) {f : Tree NodeId → Tree NodeId} (hf : Tree.RestylesOnly f) :
    ∃ s', Walk.editNode φ.node f s = (.ok (), s') ∧ StandsIn φ s' (f t) := by
  obtain ⟨rest, hs, hrest⟩ := h.trees
  obtain ⟨d, e, hd⟩ := hs.editNode (f := f) (hf.restyles t)
  exact ⟨_, h.label ▸ e,
    h.exchange hd hrest (hf.restyles t).label (hf.restyles t).isElement h.held⟩

/-- Some of the children are removed. -/
lemma removeChildrenWhere (h : StandsIn φ s t) (test : Tree NodeId → Bool) :
    ∃ s', edit φ.node (fun n d => d.removeChildrenWhere? n test) s = (.ok (), s') ∧
      StandsIn φ s' (t.setChildren (t.children.filter fun u => !test u)) := by
  obtain ⟨rest, hs, hrest⟩ := h.trees
  obtain ⟨d, e, hd⟩ := hs.removeChildrenWhere test
  refine ⟨_, run_edit (h.label ▸ e), h.exchange hd hrest ?_ ?_ h.held⟩ <;> cases t <;> rfl

/-- A text takes the place of everything below the element. -/
lemma setText (h : StandsIn φ s t) (content : String) :
    ∃ s' planted, edit φ.node (fun n d => d.setText? n content) s = (.ok (), s') ∧
      StandsIn φ s' (t.setChildren planted) ∧ ∀ u ∈ planted, u.isElement = false := by
  obtain ⟨rest, hs, hrest⟩ := h.trees
  obtain ⟨tag, attrs, hidden, children, rfl⟩ := h.exists_element
  obtain ⟨planted, d, e, hbare, hd⟩ := hs.replaceChildren [.text () content]
  refine ⟨_, planted, run_edit e, h.exchange hd hrest rfl rfl h.held, fun u hu => ?_⟩
  have hmem : u.relabel (fun _ => ()) ∈ Tree.relabelAll (fun _ => ()) planted := by
    rw [Stocked.relabelAll_eq_map]
    exact List.mem_map_of_mem hu
  rw [hbare] at hmem
  rw [← Tree.isElement_relabel (fun _ => ()) u, List.mem_singleton.1 hmem]
  rfl

/-- Markup takes the place of everything below the element. -/
lemma setMarkup (h : StandsIn φ s t) (markup : String) :
    ∃ d planted, s.document.setMarkup? φ.node markup = some (d, (Markup.read markup).fault?) ∧
      StandsIn φ { s with document := d } (t.setChildren planted) := by
  obtain ⟨rest, hs, hrest⟩ := h.trees
  obtain ⟨tag, attrs, hidden, children, rfl⟩ := h.exists_element
  obtain ⟨planted, d, e, hd⟩ := hs.setMarkup markup
  exact ⟨d, planted, e, h.exchange hd hrest rfl rfl h.held⟩

/-- A new tree is put behind the children. -/
lemma plantAppend {ι : Type} (h : StandsIn φ s t) (x : Tree ι) :
    ∃ u d d', s.document.plant x = (u.label, d) ∧ d.append? φ.node u.label = some d' ∧
      u.bare = x.bare ∧
      StandsIn φ { s with document := d' } (t.setChildren (t.children ++ [u])) := by
  obtain ⟨rest, hs, hrest⟩ := h.trees
  obtain ⟨tag, attrs, hidden, children, rfl⟩ := h.exists_element
  obtain ⟨u, d, d', e, e', hbare, hd⟩ := hs.plantAppend x
  exact ⟨u, d, d', e, e', hbare, h.exchange hd hrest rfl rfl h.held⟩

/-! ## Templates -/

/-- A template is the top of a tree besides the one with the element. -/
lemma exists_template (h : StandsIn φ s t) (hn : n ∈ s.stash.templates) :
    ∃ u, s.document.find? n = some u ∧ u.label = n ∧ u.isElement = true ∧ u.JumpFree φ.dialect := by
  obtain ⟨rest, hs, hrest⟩ := h.trees
  obtain ⟨u, others, hp, rfl, helement⟩ := hs.exists_top (.inr hn)
  refine ⟨u, ?_, rfl, helement, ?_⟩
  · exact (show s.document.Has (Tree.Context.top.plug u :: others) from (hs.perm hp).document).find?
  · refine hrest u ((List.mem_cons.1 (hp.mem_iff.2 List.mem_cons_self)).resolve_left fun e => ?_)
    -- the root is kept, and what is kept is no template
    have hone := hs.count_le_one u.label
    rw [e, h.top, List.count_singleton_self] at hone
    rw [e, h.top] at hn
    have := List.count_pos_iff.2 hn
    omega

/-- A copy of a template is put behind the children. -/
lemma appendCopy (h : StandsIn φ s t) (hn : n ∈ s.stash.templates) :
    ∃ s' u, Walk.appendCopy φ.node n s = (.ok u.label, s') ∧
      StandsIn φ s' (t.setChildren (t.children ++ [u])) ∧ u.isElement = true ∧
      u.JumpFree φ.dialect ∧ s'.stash = s.stash := by
  obtain ⟨template, hfind, -, helement, hjump⟩ := h.exists_template hn
  obtain ⟨u, d, d', e, e', hbare, h'⟩ := h.plantAppend template
  refine ⟨_, u, ?_, h', ?_, ?_, rfl⟩
  · simp only [Walk.appendCopy, run_get, Document.clone?, hfind, Option.map_some, if_true, e]
    have hedit : edit φ.node (fun n d => d.append? n u.label) { s with document := d } =
      (.ok (), { s with document := d' }) := run_edit e'
    exact (run_bind_of_ok (run_modify _ s)).trans (run_bind_of_ok hedit)
  · rw [← Tree.isElement_relabel (fun _ => ()) u]
    exact (congrArg Tree.isElement hbare).trans ((Tree.isElement_relabel _ template).trans helement)
  · refine (Tree.jumpFree_relabel (fun _ => ()) u).1 ?_
    rw [← Tree.bare, hbare]
    exact (Tree.jumpFree_relabel _ template).2 hjump

/-- What is stashed for the elements below is forgotten, and nothing else of what is held. -/
lemma forgetBelow (h : StandsIn φ s t) :
    ∃ s', Walk.forgetBelow φ.node s = (.ok (), s') ∧ StandsIn φ s' t := by
  obtain ⟨rest, hs, hrest⟩ := h.trees
  obtain ⟨s', ts', gone, entries, e, hsheds⟩ := hs.forgetBelow (n := φ.node) h.find?
  have hstays : φ.context.plug t ∈ ts' :=
    hs.mem_of_kept hsheds List.mem_cons_self (by simp [h.top])
  obtain ⟨before, after, rfl⟩ := List.append_of_mem hstays
  have hleft : (before ++ φ.context.plug t :: after).Perm (φ.context.plug t :: (before ++ after)) :=
    List.perm_middle
  have hothers : rest.Perm (gone ++ (before ++ after)) :=
    (hsheds.trees.trans ((hleft.append_left gone).trans List.perm_middle)).cons_inv
  refine ⟨s', e, h.exchange ((hs.shed hsheds).perm hleft)
    (fun v hv => hrest v (hothers.mem_iff.2 (List.mem_append_right gone hv))) rfl rfl ?_⟩
  intro entry hentry
  refine (List.mem_append.1 (hsheds.stash.mem_iff.1 (h.held entry hentry))).resolve_left
    fun hm => ?_
  have hnodup := h.nodup
  have hkey : entry.1 ∈ t.label :: φ.context.ids := by
    rcases φ.keys entry hentry with hkey | hkey
    · exact List.mem_cons_of_mem _ hkey
    · exact hkey ▸ h.label ▸ List.mem_cons_self
  rcases hsheds.keys entry hm with hbelow | hgone
  · rcases List.mem_cons.1 hkey with e | hkey
    · exact Tree.label_notMem_elementsBackward (List.nodup_append.1 hnodup).1 (e ▸ hbelow)
    · exact (List.nodup_append.1 hnodup).2.2 _ (t.elementsBackward_subset hbelow) _ hkey rfl
  · -- the tree with the element stays, and it has the key
    have hdisjoint := (hs.document.perm hsheds.trees).sound.nodup
    rw [Tree.releasedOf_append, List.nodup_append] at hdisjoint
    refine hdisjoint.2.2 _ hgone _ (Tree.released_subset_of_mem hstays ?_) rfl
    refine Tree.mem_released_plug.2 ((List.mem_cons.1 hkey).imp (fun e => ?_) id)
    exact e ▸ Tree.label_mem_released t

/-! ## Holding templates -/

variable {stored : Stored}

/-- What is stashed for the element can be held. -/
lemma hold (h : StandsIn φ s t) (hstored : (φ.node, stored) ∈ s.stash.entries) :
    StandsIn (φ.own stored) s t where
  trees := h.trees
  top := h.top
  label := h.label
  element := h.element
  held := List.forall_mem_cons.2 ⟨hstored, h.held⟩

/-- What is held need not be held any longer. -/
lemma release (h : StandsIn (φ.own stored) s t) : StandsIn φ s t where
  trees := h.trees
  top := h.top
  label := h.label
  element := h.element
  held := (List.forall_mem_cons.1 h.held).2

/-- Templates that are held are in the stash. -/
lemma templates_subset (h : StandsIn (φ.own stored) s t) : stored.templates ⊆ s.stash.templates :=
  fun _ hn => List.mem_flatMap.2 ⟨_, (List.forall_mem_cons.1 h.held).1, hn⟩

/-- Children of the element are taken out of it as templates, and held. -/
lemma stashTemplates {picked : List (Tree NodeId)} (h : StandsIn φ s t)
    (hjump : ∀ u ∈ t.children, u.JumpFree φ.dialect) (hnone : s.stash.find? φ.node = none)
    (hpicked : picked.Sublist t.elements) (hstored : stored.templates = picked.map Tree.label) :
    ∃ s' left, Walk.stashTemplates φ.node stored s = (.ok (), s') ∧ left.Sublist t.children ∧
      StandsIn (φ.own stored) s' (t.setChildren left) := by
  obtain ⟨rest, hs, hrest⟩ := h.trees
  obtain ⟨tag, attrs, hidden, children, rfl⟩ := h.exists_element
  have hsub : picked.Sublist children := hpicked.trans List.filter_sublist
  obtain ⟨s', left, e, hleft, hentries, hs'⟩ := hs.stashTemplates hnone hsub
    (fun p hp => (List.mem_filter.1 (hpicked.subset hp)).2) hstored
  refine ⟨s', left, e, hleft,
    hold (h.exchange hs' (fun v hv => ?_) rfl rfl fun entry hentry => ?_) ?_⟩
  · rcases List.mem_append.1 hv with hv | hv
    · exact hjump v (hsub.subset hv)
    · exact hrest v hv
  · exact hentries ▸ List.mem_cons_of_mem _ (h.held entry hentry)
  · exact hentries ▸ List.mem_cons_self

/-! ## Children -/

variable {tag : String} {attrs : List (String × String)} {hidden : Bool}
  {before after : List (Tree NodeId)}

/-- The surroundings of an element are those of a child with the element as part of the context. -/
lemma enter (h : StandsIn φ s (.element φ.node tag attrs hidden (before ++ u :: after)))
    (hu : u.isElement = true) : StandsIn (φ.child tag attrs hidden before after u.label) s u where
  trees := h.trees
  top := h.top
  label := rfl
  element := hu
  held := h.held

/-- Where a child stands in its surroundings the element stands in its own. -/
lemma leave (h : StandsIn (φ.child tag attrs hidden before after n) s u) :
    StandsIn φ s (.element φ.node tag attrs hidden (before ++ u :: after)) where
  trees := h.trees
  top := h.top
  label := rfl
  element := rfl
  held := h.held

end StandsIn

end Walk

end TreeTemplate
