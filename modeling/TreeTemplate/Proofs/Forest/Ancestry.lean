import Mathlib.Logic.Relation
import TreeTemplate.Proofs.Forest.Nodes

/-!
# What is above a node

A node is above another one if it is its parent or further up. The way up from a node is the same in
two documents in which the nodes on it have the same parents. So it is not changed by anything that
is done elsewhere, and where nodes are only removed it is the same for every node that is left.

Main statements:

* `above_congr` — the way up is told by the parents on it;
* `Has.above_iff` — a node is above what stands below it;
* `Prunes.above`, `Has.prunes_remove?` — documents from which nodes are removed.
-/

namespace TreeTemplate.Tree

variable {n m : NodeId} {t : Tree NodeId} {before after : List (Tree NodeId)} {tag : String}
  {attrs : List (String × String)} {hidden : Bool}

/-- A child is no matter for the parents of nodes that are not in it. -/
lemma parent?_of_removed (h : n ∉ t.released) :
    (element m tag attrs hidden (before ++ t :: after)).parent? n =
      (element m tag attrs hidden (before ++ after)).parent? n := by
  have hlabel : t.label ≠ n := fun e => h (e ▸ label_mem_released t)
  have hwithin : parentIn? n (before ++ t :: after) = parentIn? n (before ++ after) := by
    induction before with
    | nil =>
      simp only [List.nil_append, parentIn?, parent?_of_notMem h]
      cases parentIn? n after <;> rfl
    | cons u before ih => simp only [List.cons_append, parentIn?, ih]
  simp only [parent?, hwithin, List.any_append, List.any_cons, hlabel, decide_false,
    Bool.false_or]

end TreeTemplate.Tree

namespace TreeTemplate.Document

variable {d d' d'' : Document} {m n p : NodeId} {t u : Tree NodeId} {ts rest : List (Tree NodeId)}
  {C D : Tree.Context} {tag : String} {attrs : List (String × String)} {hidden : Bool}
  {us : List (Tree NodeId)}

/-- A node is above another one, directly or further up. -/
def Above (d : Document) (m n : NodeId) : Prop :=
  Relation.TransGen (fun m n => d.parent? n = some m) m n

/-- The parent of a node is above it. -/
lemma Above.of_parent (h : d.parent? n = some m) : d.Above m n :=
  .single h

/-- What is above a node is above everything below that. -/
lemma Above.trans (h : d.Above m p) (h' : d.Above p n) : d.Above m n :=
  Relation.TransGen.trans h h'

/-- What is above a node is its parent, or is above its parent. -/
lemma Above.cases (h : d.Above m n) : ∃ p, d.parent? n = some p ∧ (m = p ∨ d.Above m p) := by
  cases h with
  | single h => exact ⟨m, h, .inl rfl⟩
  | tail h h' => exact ⟨_, h', .inr h⟩

/-- The node above a node that has a parent, if they are not the same. -/
lemma above_iff_of_parent (h : d.parent? n = some p) : d.Above m n ↔ m = p ∨ d.Above m p := by
  refine ⟨fun hm => ?_, fun hm => ?_⟩
  · obtain ⟨q, hq, hm⟩ := hm.cases
    obtain rfl : q = p := Option.some.inj (hq.symm.trans h)
    exact hm
  · rcases hm with rfl | hm
    · exact .of_parent h
    · exact hm.tail h

/-- What is above a node is so in every document that gives the nodes on the way the same
parents. -/
lemma Above.congr (h : d.Above m n)
    (hparent : ∀ p, d.Above p n ∨ p = n → d'.parent? p = d.parent? p) : d'.Above m n := by
  induction h with
  | single h => exact .single ((hparent _ (.inr rfl)).trans h)
  | tail h h' ih =>
    refine (ih fun p hp => hparent p (.inl ?_)).tail ((hparent _ (.inr rfl)).trans h')
    rcases hp with hp | rfl
    · exact hp.tail h'
    · exact .of_parent h'

/-- Nodes whose way up has the same parents in two documents have the same above them. -/
lemma above_congr (hparent : ∀ p, d.Above p n ∨ p = n → d'.parent? p = d.parent? p) :
    d'.Above m n ↔ d.Above m n := by
  refine ⟨fun h => ?_, fun h => h.congr hparent⟩
  induction h with
  | single h => exact .single ((hparent _ (.inr rfl)).symm.trans h)
  | @tail p q _ h' ih =>
    have hq : d.parent? q = some p := (hparent _ (.inr rfl)).symm.trans h'
    refine (ih fun r hr => hparent r (.inl ?_)).tail hq
    rcases hr with hr | rfl
    · exact hr.tail hq
    · exact .of_parent hq

namespace Has

/-- The top of a context is above what fills the context. -/
lemma above_plug (h : d.Has (C.plug (D.plug t) :: rest)) :
    D = .top ∨ d.Above (D.plug t).label t.label := by
  induction D generalizing t with
  | top => exact .inl rfl
  | inside outer m tag attrs hidden before after ih =>
    let around : Tree NodeId := .element m tag attrs hidden (before ++ t :: after)
    have hparent : d.parent? t.label = some m := by
      have h' : d.Has ((C.comp outer).plug around :: rest) := Tree.Context.plug_comp C outer _ ▸ h
      exact h'.parent?
    rcases ih (t := around) h with rfl | habove
    · exact .inr (.of_parent hparent)
    · exact .inr (habove.tail hparent)

/-- What stands below a node fills a context in what is found there. -/
lemma exists_plug_below (h : d.Has ts) (hm : d.find? m = some t)
    (hn : n ∈ Tree.releasedOf t.children) :
    ∃ (C D : Tree.Context) (u : Tree NodeId) (rest : List (Tree NodeId)),
      d.Has (C.plug (D.plug u) :: rest) ∧ D ≠ .top ∧ (D.plug u).label = m ∧ u.label = n ∧
        u.released ⊆ Tree.releasedOf t.children := by
  obtain ⟨C, rest, -, hplug, rfl⟩ := h.exists_plug hm
  obtain ⟨u, hu⟩ := Tree.exists_findIn? hn
  obtain ⟨before, D, after, e⟩ := Tree.exists_plug_of_findIn? hu
  cases t with
  | element m tag attrs hidden children =>
    obtain rfl : children = before ++ D.plug u :: after := e
    refine ⟨C, (Tree.Context.inside .top m tag attrs hidden before after).comp D, u, rest, ?_, ?_,
      ?_, Tree.findIn?_label hu, fun p hp => ?_⟩
    · rw [Tree.Context.plug_comp]
      exact hplug
    · cases D <;> exact nofun
    · rw [Tree.Context.plug_comp]
      rfl
    · show p ∈ Tree.releasedOf (before ++ D.plug u :: after)
      rw [Tree.releasedOf_append, Tree.releasedOf_cons]
      exact List.mem_append_right _ (List.mem_append_left _ (mem_plug hp))
  | text m content => simp [Tree.children] at e

/-- A node is above another one if that one stands below it. -/
lemma above_of_mem (h : d.Has ts) (hm : d.find? m = some t) (hn : n ∈ Tree.releasedOf t.children) :
    d.Above m n := by
  obtain ⟨C, D, u, rest, hplug, hD, rfl, rfl, -⟩ := h.exists_plug_below hm hn
  exact hplug.above_plug.resolve_left hD

/-- What stands below a node that stands below another one stands below that one. -/
lemma mem_releasedOf_trans (h : d.Has ts) (hm : d.find? m = some t) (hp : d.find? p = some u)
    (hpm : p ∈ Tree.releasedOf t.children) (hn : n ∈ u.released) :
    n ∈ Tree.releasedOf t.children := by
  obtain ⟨C, D, v, rest, hplug, -, -, rfl, hsub⟩ := h.exists_plug_below hm hpm
  rw [← Tree.Context.plug_comp] at hplug
  obtain rfl : v = u := Option.some.inj (hplug.find?.symm.trans hp)
  exact hsub hn

/-- A node is above exactly what stands below it. -/
lemma above_iff (h : d.Has ts) :
    d.Above m n ↔ ∃ t, d.find? m = some t ∧ n ∈ Tree.releasedOf t.children := by
  refine ⟨fun hm => ?_, fun ⟨t, ht, hn⟩ => h.above_of_mem ht hn⟩
  induction hm with
  | single hparent =>
    obtain ⟨t, ht, hn⟩ := h.of_parent? hparent
    exact ⟨t, ht, (Tree.map_label_sublist _).subset hn⟩
  | tail _ hparent ih =>
    obtain ⟨t, ht, hp⟩ := ih
    obtain ⟨u, hu, hn⟩ := h.of_parent? hparent
    refine ⟨t, ht, h.mem_releasedOf_trans ht hu hp ?_⟩
    have hbelow := (Tree.map_label_sublist _).subset hn
    cases u with
    | element l tag attrs hidden children => exact List.mem_append_left _ hbelow
    | text l content => cases hn

/-- No node is above itself. -/
lemma not_above_self (h : d.Has ts) : ¬ d.Above n n := by
  rintro hn
  obtain ⟨t, ht, hmem⟩ := h.above_iff.1 hn
  obtain ⟨C, rest, -, hplug, rfl⟩ := h.exists_plug ht
  cases t with
  | element m tag attrs hidden children =>
    have hnodup := (List.nodup_append.1 hplug.nodup_plug).1
    rw [Tree.released_element, List.nodup_append] at hnodup
    exact hnodup.2.2 m hmem m List.mem_cons_self rfl
  | text m content => cases hmem

/-- What is above a node is a node. -/
lemma find?_of_above (h : d.Has ts) (hm : d.Above m n) : (d.find? m).isSome ∧
    (d.find? n).isSome := by
  obtain ⟨t, ht, hn⟩ := h.above_iff.1 hm
  obtain ⟨u, hu, -⟩ := hm.cases
  refine ⟨ht ▸ rfl, h.find?_isSome.2 ?_⟩
  obtain ⟨C, rest, hp, -, -⟩ := h.exists_plug ht
  refine (Tree.releasedOf_perm hp).subset ?_
  rw [Tree.releasedOf_cons, List.mem_append]
  refine .inl (mem_plug ?_)
  cases t with
  | element l tag attrs hidden children => exact List.mem_append_left _ hn
  | text l content => cases hn

/-- In a tree that two documents have, every node has the same parent. -/
lemma parent?_of_mem (h : d.Has ts) (h' : d'.Has us) (ht : t ∈ ts) (ht' : t ∈ us)
    (hn : n ∈ t.released) : d'.parent? n = d.parent? n := by
  obtain ⟨before, after, rfl⟩ := List.append_of_mem ht
  obtain ⟨before', after', rfl⟩ := List.append_of_mem ht'
  rw [(h.perm List.perm_middle).parent?_eq hn, (h'.perm List.perm_middle).parent?_eq hn]

/-- What fills a context is exchanged, and a node that has the same parent in both trees has the
same parent. -/
lemma parent?_exchange (h : d.Has (C.plug t :: rest)) (h' : d'.Has (C.plug u :: us))
    (hl : u.label = t.label) (ht : n ∈ (C.plug t).released) (hu : n ∈ (C.plug u).released)
    (hparent : t.parent? n = u.parent? n) : d'.parent? n = d.parent? n := by
  rw [h.parent?_eq ht, h'.parent?_eq hu]
  exact (Tree.parent?_plug_congr C hl hparent).symm

/-- A child that is removed is taken out of its element. -/
lemma remove?_child (h : d.Has (C.plug (.element m tag attrs hidden (ts ++ t :: us)) :: rest)) :
    ∃ d', d.remove? t.label = some d' ∧
      d'.Has (C.plug (.element m tag attrs hidden (ts ++ us)) :: rest) := by
  let C' := Tree.Context.inside C m tag attrs hidden ts us
  have h' : d.Has (C'.plug t :: rest) := h
  obtain ⟨before, after, e, hrest, hnot⟩ := h'.exists_middle
  have hn := Tree.label_mem_released t
  have hC' := h'.notMem_ids hn
  obtain ⟨hbefore, hafter⟩ := hnot _ (mem_plug hn)
  refine ⟨⟨before ++ C.plug (.element m tag attrs hidden (ts ++ us)) :: after,
    d.supply.give t.released⟩, ?_, List.perm_middle.trans (hrest.cons _), ?_⟩
  · rw [Document.remove?, e,
      Tree.takeIn?_middle_below hbefore hafter (Tree.label_plug_inside hC')]
    rw [show C'.plug t = C.plug (.element m tag attrs hidden (ts ++ t :: us)) from rfl,
      Tree.takeBelow?_plug_child hC']
    rfl
  · refine Supply.Sound.give (h.sound.perm (List.perm_iff_count.2 fun n => ?_))
    simp only [Tree.releasedOf_cons, List.count_append, (Tree.released_plug C _).count_eq,
      Tree.released_element, Tree.releasedOf_append, List.count_cons]
    omega

end Has

/-! ## Nodes are removed -/

/-- From one document to another nodes are removed, and what is left stands where it stood. -/
structure Prunes (d d' : Document) : Prop where
  /-- What is there was there before. -/
  found : ∀ n, (d'.find? n).isSome → (d.find? n).isSome
  /-- What is there has the parent that it had. -/
  parent : ∀ n, (d'.find? n).isSome → d'.parent? n = d.parent? n

namespace Prunes

/-- A document is what is left when nothing is removed. -/
lemma refl (d : Document) : d.Prunes d :=
  ⟨fun _ h => h, fun _ _ => rfl⟩

/-- What is left when nodes are removed twice is left when they are removed at once. -/
lemma trans (h : d.Prunes d') (h' : d'.Prunes d'') : d.Prunes d'' :=
  ⟨fun n hn => h.found n (h'.found n hn), fun n hn =>
    (h'.parent n hn).trans (h.parent n (h'.found n hn))⟩

/-- A node that is left has the same above it. -/
lemma above (h : d.Prunes d') (hd' : d'.Has ts) (hn : (d'.find? n).isSome) :
    d.Above m n ↔ d'.Above m n :=
  above_congr fun p hp => (h.parent p (hp.elim (fun hp => (hd'.find?_of_above hp).1)
    fun e => e ▸ hn)).symm

end Prunes

/-- Where a node is removed, the others stay where they are. -/
lemma Has.prunes_remove? (h : d.Has ts) (hremove : d.remove? n = some d') :
    ∃ us, d'.Has us ∧ d.Prunes d' ∧ d'.find? n = none := by
  have hn : n ∈ Tree.releasedOf d.trees := by
    by_contra hnone
    rw [Document.remove?, Tree.takeIn?_of_notMem hnone] at hremove
    cases hremove
  obtain ⟨t, ht⟩ := Tree.exists_findIn? hn
  obtain ⟨C, rest, -, hplug, rfl⟩ := h.exists_plug ht
  have hnodup := hplug.sound.nodup
  rw [Tree.releasedOf_cons, List.nodup_append] at hnodup
  -- a tree beside the one with the node is one of both documents
  have hbeside {us : List (Tree NodeId)} (hleft : d'.Has us) (hsub : rest ⊆ us) {p : NodeId}
      (hp : p ∈ Tree.releasedOf rest) :
      (d.find? p).isSome ∧ d'.parent? p = d.parent? p := by
    obtain ⟨u, hu⟩ := Tree.exists_findIn? hp
    obtain ⟨before, D, after, rfl⟩ := Tree.exists_plug_of_findIn? hu
    have hmem : D.plug u ∈ before ++ D.plug u :: after :=
      List.mem_append_right _ List.mem_cons_self
    refine ⟨hplug.find?_isSome.2 ?_, hplug.parent?_of_mem hleft (List.mem_cons_of_mem _ hmem)
      (hsub hmem) (Tree.findIn?_label hu ▸ Has.mem_plug (Tree.label_mem_released u))⟩
    rw [Tree.releasedOf_cons]
    exact List.mem_append_right _ hp
  cases C with
  | top =>
    obtain ⟨left, e, hleft⟩ := hplug.remove?
    obtain rfl : left = d' := Option.some.inj (e.symm.trans hremove)
    have hothers {p : NodeId} (hp : (left.find? p).isSome) :=
      hbeside hleft (List.Subset.refl _) (hleft.find?_isSome.1 hp)
    exact ⟨rest, hleft, ⟨fun p hp => (hothers hp).1, fun p hp => (hothers hp).2⟩,
      hleft.find?_eq_none fun hmem => hnodup.2.2 _ (Tree.label_mem_released t) _ hmem rfl⟩
  | inside outer m tag attrs hidden before after =>
    obtain ⟨left, e, hleft⟩ := Has.remove?_child hplug
    obtain rfl : left = d' := Option.some.inj (e.symm.trans hremove)
    have hapart := hplug.nodup_plug
    rw [List.nodup_append] at hapart
    -- a node of the tree that is left is in the context
    have hcontext {p : NodeId} (hp : p ∈ (outer.plug (.element m tag attrs hidden
        (before ++ after))).released) :
        p ∈ (Tree.Context.inside outer m tag attrs hidden before after).ids := by
      rw [Tree.mem_released_plug, Tree.released_element, Tree.releasedOf_append] at hp
      simp only [Tree.Context.ids, List.mem_append, List.mem_cons, List.not_mem_nil] at hp ⊢
      tauto
    have hwithin {p : NodeId} (hp : p ∈ (outer.plug (.element m tag attrs hidden
        (before ++ after))).released) : (d.find? p).isSome ∧ left.parent? p = d.parent? p := by
      have hmem : p ∈
          ((Tree.Context.inside outer m tag attrs hidden before after).plug t).released :=
        Tree.mem_released_plug.2 (.inr (hcontext hp))
      have hnot : p ∉ t.released := fun hm => hapart.2.2 p hm p (hcontext hp) rfl
      refine ⟨hplug.find?_isSome.2 ?_, Has.parent?_exchange (C := outer) hplug hleft rfl hmem hp ?_⟩
      · rw [Tree.releasedOf_cons]
        exact List.mem_append_left _ hmem
      · exact Tree.parent?_of_removed hnot
    have hall {p : NodeId} (hp : (left.find? p).isSome) :
        (d.find? p).isSome ∧ left.parent? p = d.parent? p := by
      have hmem := hleft.find?_isSome.1 hp
      rw [Tree.releasedOf_cons, List.mem_append] at hmem
      exact hmem.elim hwithin (hbeside hleft (List.subset_cons_self _ _))
    refine ⟨_, hleft, ⟨fun p hp => (hall hp).1, fun p hp => (hall hp).2⟩,
      hleft.find?_eq_none fun hmem => ?_⟩
    rw [Tree.releasedOf_cons, List.mem_append] at hmem
    have hlabel := Tree.label_mem_released t
    exact hmem.elim (fun hm => hapart.2.2 _ hlabel _ (hcontext hm) rfl)
      fun hm => hnodup.2.2 _ (Has.mem_plug hlabel) _ hm rfl

end TreeTemplate.Document
