import TreeTemplate.Proofs.Follow.Forget
import TreeTemplate.Proofs.Forest.Links

/-!
# Templates at the tops of trees

What is stashed as a template is the top of a tree of the document, and no two entries of the stash
share one. That is all there is to say about the templates of any stash, whatever walks have done to
the document: it needs no entry to belong to an element that is still there.

Main statements:

* `Anchors` — nodes to be kept and the templates of the stash are the tops of different trees;
* `Anchors.forgetBelow` — forgetting templates sheds their trees and nothing else.
-/

namespace TreeTemplate

open TreeTemplate.Tree (releasedOf)

/-- The nodes that a stash holds as templates. -/
def Stash.templates (s : Stash) : List NodeId :=
  s.entries.flatMap fun entry => entry.2.templates

/-- The elements at the tops of trees. -/
def Tree.tops (ts : List (Tree NodeId)) : List NodeId :=
  (ts.filter Tree.isElement).map Tree.label

namespace Tree

variable {t u : Tree NodeId} {ts us rest : List (Tree NodeId)} {n : NodeId}

/-- Trees in another order have the same tops in another order. -/
lemma tops_perm (h : ts.Perm us) : (tops ts).Perm (tops us) :=
  (h.filter _).map _

/-- The tops of several trees are those of the first ones and those of the others. -/
lemma tops_append (ts us : List (Tree NodeId)) : tops (ts ++ us) = tops ts ++ tops us := by
  simp [tops]

/-- A top is the identity of one of the trees that are elements. -/
lemma mem_tops : n ∈ tops ts ↔ ∃ t ∈ ts, t.isElement = true ∧ t.label = n := by
  simp [tops, and_assoc]

/-- The top of a tree has one of its identities. -/
lemma tops_sublist (ts : List (Tree NodeId)) : (tops ts).Sublist (releasedOf ts) :=
  (List.filter_sublist.map _).trans (map_label_sublist ts)

/-- Of two trees with the same kind of top one can take the place of the other. -/
lemma tops_cons_congr (hl : u.label = t.label) (he : u.isElement = t.isElement) :
    tops (u :: rest) = tops (t :: rest) := by
  cases h : t.isElement <;> simp [tops, h, hl, he]

end Tree

namespace Tree

mutual

/-- The elements below a node are nodes of it. -/
lemma elementsBackward_subset (t : Tree NodeId) : t.elementsBackward ⊆ t.released := by
  cases t with
  | element m tag attrs hidden children =>
    rw [elementsBackward, released_element]
    exact List.subset_append_of_subset_left _ (elementsBackwardOf_subset children)
  | text m content => exact List.nil_subset _

/-- The elements below trees, the last first, are nodes of these trees. -/
lemma elementsBackwardOf_subset (ts : List (Tree NodeId)) :
    elementsBackwardOf ts ⊆ releasedOf ts := by
  cases ts with
  | nil => exact List.nil_subset _
  | cons t ts =>
    rw [elementsBackwardOf, releasedOf_cons]
    refine List.append_subset.2
      ⟨List.subset_append_of_subset_right _ (elementsBackwardOf_subset ts), ?_⟩
    refine List.subset_append_of_subset_left _ ?_
    split
    · exact List.cons_subset.2 ⟨label_mem_released t, elementsBackward_subset t⟩
    · exact List.nil_subset _

end

end Tree

namespace Walk

variable {s s' s'' : State} {kept : List NodeId} {ts us rest ts' ts'' : List (Tree NodeId)}
  {n : NodeId} {t u : Tree NodeId} {C : Tree.Context}

/-- The document of a state has the given trees, no element has two entries in the stash, and the
kept nodes and the templates of the stash are elements at the tops of different trees. -/
structure Anchors (s : State) (kept : List NodeId) (ts : List (Tree NodeId)) : Prop where
  document : s.document.Has ts
  keys : (s.stash.entries.map Prod.fst).Nodup
  tops : ∀ n, kept.count n + s.stash.templates.count n ≤ (Tree.tops ts).count n

namespace Anchors

/-- It does not matter in which order the trees are. -/
lemma perm (h : Anchors s kept ts) (hp : ts.Perm us) : Anchors s kept us where
  document := h.document.perm hp
  keys := h.keys
  tops n := (Tree.tops_perm hp).count_eq n ▸ h.tops n

/-- Only the document and the stash count of a state. -/
lemma congr (h : Anchors s kept ts) (hd : s'.document = s.document) (hs : s'.stash = s.stash) :
    Anchors s' kept ts where
  document := hd ▸ h.document
  keys := hs ▸ h.keys
  tops := hs ▸ h.tops

/-- No node is at the top of two trees. -/
lemma count_le_one (h : Anchors s kept ts) (n : NodeId) :
    kept.count n + s.stash.templates.count n ≤ 1 := by
  have hnodup := List.nodup_iff_count_le_one.1 h.document.sound.nodup n
  have hle := (Tree.tops_sublist ts).count_le n
  have := h.tops n
  omega

/-- The kept nodes and the templates of the stash are tops of trees. -/
lemma mem_tops (h : Anchors s kept ts) (hn : n ∈ kept ∨ n ∈ s.stash.templates) :
    n ∈ Tree.tops ts := by
  have hle := h.tops n
  simp only [← List.count_pos_iff] at hn ⊢
  omega

/-- A node that is kept and a template are at the top of a tree. -/
lemma exists_top (h : Anchors s kept ts) (hn : n ∈ kept ∨ n ∈ s.stash.templates) :
    ∃ t rest, ts.Perm (t :: rest) ∧ t.label = n ∧ t.isElement = true := by
  classical
  obtain ⟨t, ht, helement, hl⟩ := Tree.mem_tops.1 (h.mem_tops hn)
  obtain ⟨before, after, rfl⟩ := List.append_of_mem ht
  exact ⟨t, before ++ after, List.perm_middle, hl, helement⟩

/-- A node that is found fills a context in one of the trees. -/
lemma exists_plug (h : Anchors s kept ts) (hn : s.document.find? n = some t) :
    ∃ (C : Tree.Context) (rest : List (Tree NodeId)),
      Anchors s kept (C.plug t :: rest) ∧ t.label = n := by
  obtain ⟨C, rest, hp, -, hl⟩ := h.document.exists_plug hn
  exact ⟨C, rest, h.perm hp.symm, hl⟩

/-- A node that takes the place of another one leaves the tops of the trees as they are. -/
lemma exchange (h : Anchors s kept (C.plug t :: rest)) (hs : s'.stash = s.stash)
    (h' : s'.document.Has (C.plug u :: rest)) (hl : u.label = t.label)
    (he : u.isElement = t.isElement) : Anchors s' kept (C.plug u :: rest) where
  document := h'
  keys := hs ▸ h.keys
  tops n := by
    obtain ⟨hl', he'⟩ := Tree.plug_top C hl he
    rw [Tree.tops_cons_congr hl' he', hs]
    exact h.tops n

end Anchors

/-! ## Forgetting -/

/-- From a state to another one, some entries were dropped from the stash and the trees of their
templates from the document. The elements of the entries have a property or are in the trees that
were dropped. -/
structure Sheds (p : NodeId → Prop) (s s' : State) (ts ts' : List (Tree NodeId))
    (gone : List (Tree NodeId)) (entries : List (NodeId × Stored)) : Prop where
  trees : ts.Perm (gone ++ ts')
  document : s'.document.Has ts'
  stash : s.stash.entries.Perm (entries ++ s'.stash.entries)
  templates : (Tree.tops gone).Perm (entries.flatMap fun entry => entry.2.templates)
  keys : ∀ entry ∈ entries, p entry.1 ∨ entry.1 ∈ releasedOf gone

/-- A walk succeeds, and from the state to the one that it leads to templates are shed. -/
def Shedding (p : NodeId → Prop) (walk : Walk Unit) (s : State) (ts : List (Tree NodeId)) : Prop :=
  ∃ s' ts' gone entries, walk s = (.ok (), s') ∧ Sheds p s s' ts ts' gone entries

namespace Sheds

variable {p q : NodeId → Prop} {gone gone' : List (Tree NodeId)}
  {entries entries' : List (NodeId × Stored)}

/-- Nothing is shed where nothing happens. -/
lemma refl (h : s.document.Has ts) : Sheds p s s ts ts [] [] where
  trees := .refl _
  document := h
  stash := .refl _
  templates := .refl _
  keys _ h := nomatch h

/-- What is shed by two walks is shed by both together. -/
lemma trans (h : Sheds p s s' ts ts' gone entries) (h' : Sheds p s' s'' ts' ts'' gone' entries') :
    Sheds p s s'' ts ts'' (gone ++ gone') (entries ++ entries') where
  trees := h.trees.trans ((h'.trees.append_left gone).trans (.of_eq (List.append_assoc ..).symm))
  document := h'.document
  stash := h.stash.trans
    ((h'.stash.append_left entries).trans (.of_eq (List.append_assoc ..).symm))
  templates := by
    rw [Tree.tops_append, List.flatMap_append]
    exact h.templates.append h'.templates
  keys entry hentry := by
    rw [Tree.releasedOf_append, List.mem_append]
    rcases List.mem_append.1 hentry with hentry | hentry
    · exact (h.keys entry hentry).imp_right .inl
    · exact (h'.keys entry hentry).imp_right .inr

/-- What is shed for some elements is shed for more. -/
lemma mono (h : Sheds p s s' ts ts' gone entries) (hq : ∀ n, p n → q n) :
    Sheds q s s' ts ts' gone entries :=
  ⟨h.trees, h.document, h.stash, h.templates, fun entry hentry =>
    (h.keys entry hentry).imp_left (hq _)⟩

end Sheds

namespace Anchors

variable {p : NodeId → Prop} {gone : List (Tree NodeId)} {entries : List (NodeId × Stored)}

/-- What is kept stays, and so do the templates that are still stashed. -/
lemma shed (h : Anchors s kept ts) (hs : Sheds p s s' ts ts' gone entries) :
    Anchors s' kept ts' where
  document := hs.document
  keys := by
    have hkeys := ((hs.stash.map Prod.fst).nodup_iff).1 h.keys
    rw [List.map_append] at hkeys
    exact (List.nodup_append.1 hkeys).2.1
  tops n := by
    have hle := h.tops n
    have hstash := (hs.stash.flatMap_right fun entry => entry.2.templates).count_eq n
    rw [List.flatMap_append, List.count_append] at hstash
    rw [(Tree.tops_perm hs.trees).count_eq, Tree.tops_append, List.count_append,
      hs.templates.count_eq, Stash.templates, hstash] at hle
    rw [Stash.templates]
    omega

/-- The tree of a node that is kept is not shed. -/
lemma mem_of_kept (h : Anchors s kept ts) (hs : Sheds p s s' ts ts' gone entries)
    (ht : t ∈ ts) (hl : t.label ∈ kept) : t ∈ ts' := by
  refine (List.mem_append.1 (hs.trees.mem_iff.1 ht)).resolve_left fun hgone => ?_
  have hstays := (Tree.tops_sublist ts').subset ((h.shed hs).mem_tops (.inl hl))
  have hnodup := (h.document.perm hs.trees).sound.nodup
  rw [Tree.releasedOf_append, List.nodup_append] at hnodup
  exact hnodup.2.2 _ (Tree.released_subset_of_mem hgone (Tree.label_mem_released t)) _ hstays rfl

end Anchors

/-- What is taken from a stash in which no element has two entries stood in it besides the rest. -/
lemma perm_of_take? {stash rest : Stash} {stored : Stored}
    (hkeys : (stash.entries.map Prod.fst).Nodup) (h : stash.take? n = some (stored, rest)) :
    stash.entries.Perm ((n, stored) :: rest.entries) := by
  have hmem := Stash.mem_of_lookup (Stash.find?_take? h)
  simp only [Stash.take?, Option.map_eq_some_iff, Prod.mk.injEq] at h
  obtain ⟨_, -, -, rfl⟩ := h
  obtain ⟨before, after, e⟩ := List.append_of_mem hmem
  have hother : ∀ entry ∈ before ++ after, entry.1 ≠ n := by
    have hnodup := ((List.perm_middle.map Prod.fst).nodup_iff).1 (e ▸ hkeys)
    rw [List.map_cons, List.nodup_cons] at hnodup
    exact fun entry hentry hn => hnodup.1 (List.mem_map.2 ⟨entry, hentry, hn⟩)
  rw [e]
  refine List.perm_middle.trans (.cons _ (.of_eq ?_))
  rw [List.filter_append, List.filter_cons_of_neg (by simp), ← List.filter_append]
  exact (List.filter_eq_self.2 fun entry hentry => by simpa using hother entry hentry).symm

/-- Where a walk sheds templates before a second one does, both of them do. -/
lemma Shedding.bind {p : NodeId → Prop} {w : Walk Unit} {v : Walk Unit}
    (h : Shedding p w s ts) (hv : ∀ {s' ts' gone entries}, Sheds p s s' ts ts' gone entries →
      Shedding p v s' ts') : Shedding p (w >>= fun _ => v) s ts := by
  obtain ⟨s', ts', gone, entries, e, hs⟩ := h
  obtain ⟨s'', ts'', gone', entries', e', hs'⟩ := hv hs
  exact ⟨s'', ts'', _, _, (run_bind_of_ok e).trans e', hs.trans hs'⟩

/-- Walks one after another shed templates if each of them does from wherever those before it
lead. -/
lemma Anchors.shedding_forM (h : Anchors s kept ts) (p : NodeId → Prop) (f : NodeId → Walk Unit)
    (xs : List NodeId) (hf : ∀ x ∈ xs, ∀ {s' : State} {ts' : List (Tree NodeId)},
      Anchors s' kept ts' → (∀ t ∈ ts', t ∈ ts) → Shedding p (f x) s' ts') :
    Shedding p (xs.forM f) s ts := by
  induction xs generalizing s ts with
  | nil => exact ⟨s, ts, [], [], rfl, .refl h.document⟩
  | cons x xs ih =>
    show Shedding p (f x >>= fun _ => xs.forM f) s ts
    refine (hf x List.mem_cons_self h fun _ ht => ht).bind fun {s' ts' gone _} hs =>
      ih (h.shed hs) fun y hy _ _ hanchors hsub =>
        hf y (List.mem_cons_of_mem _ hy) hanchors fun t ht => ?_
    exact hs.trees.mem_iff.2 (List.mem_append_right gone (hsub t ht))

/-- Kept nodes that are removed take their trees with them. -/
lemma Anchors.remove {xs : List NodeId} (h : Anchors s (xs ++ kept) ts) :
    ∃ s' ts' gone, xs.forM remove s = (.ok (), s') ∧ ts.Perm (gone ++ ts') ∧
      Anchors s' kept ts' ∧ s'.stash = s.stash ∧ (Tree.tops gone).Perm xs := by
  induction xs generalizing s ts with
  | nil => exact ⟨s, ts, [], rfl, .refl _, h, rfl, .refl _⟩
  | cons x xs ih =>
    obtain ⟨t, rest, hp, rfl, helement⟩ := h.exists_top (n := x) (.inl (by simp))
    obtain ⟨d, e, hd⟩ := (h.document.perm hp).remove?
    have hafter : Anchors { s with document := d } (xs ++ kept) rest := by
      refine ⟨hd, h.keys, fun n => ?_⟩
      have hle := h.tops n
      rw [(Tree.tops_perm hp).count_eq, Tree.tops, List.filter_cons_of_pos helement] at hle
      simp only [List.cons_append, List.count_cons, List.map_cons] at hle
      simp only [Tree.tops]
      omega
    obtain ⟨s', ts', gone, e', hp', hs', hstash, hgone⟩ := ih hafter
    refine ⟨s', ts', t :: gone, ?_, hp.trans (hp'.cons t), hs', hstash, ?_⟩
    · have hremove : Walk.remove t.label s = (.ok (), { s with document := d }) := run_edit e
      exact (run_forM_cons_of_ok hremove).trans e'
    · rw [Tree.tops, List.filter_cons_of_pos helement]
      exact hgone.cons _

/-! ## Forgetting what is below an element -/

variable {room : Nat}

/-- With this much room, what is found sheds the templates of the elements below it. -/
def ShedsBelow (room : Nat) : Prop :=
  ∀ {s : State} {kept : List NodeId} {ts : List (Tree NodeId)} {n : NodeId} {t : Tree NodeId},
    Anchors s kept ts → s.document.find? n = some t →
      Shedding (· ∈ t.elementsBackward) (forgetWithin room n) s ts

/-- What is stashed for an element is shed. -/
lemma Anchors.shedding_stored (hroom : ShedsBelow room) (h : Anchors s kept ts) (element : NodeId) :
    Shedding (· = element) (forgetStored room element) s ts := by
  cases htake : s.stash.take? element with
  | none =>
    refine ⟨s, ts, [], [], ?_, .refl h.document⟩
    have hnone : takeStored element s = (.ok none, s) := by
      simp only [takeStored, run_get, htake, run_pure]
    exact run_bind_of_ok hnone
  | some taken =>
    obtain ⟨stored, left⟩ := taken
    have hsome : takeStored element s = (.ok (some stored), { s with stash := left }) := by
      simp only [takeStored, run_get, htake]
      rfl
    have hperm := perm_of_take? h.keys htake
    -- the templates that were taken are kept until all inside them is forgotten
    have htaken : Anchors { s with stash := left } (stored.templates ++ kept) ts := by
      refine ⟨h.document, ?_, fun n => ?_⟩
      · have hkeys := ((hperm.map Prod.fst).nodup_iff).1 h.keys
        exact (List.nodup_cons.1 hkeys).2
      · have hle := h.tops n
        rw [Stash.templates, (hperm.flatMap_right fun entry => entry.2.templates).count_eq] at hle
        simp only [List.flatMap_cons, List.count_append] at hle
        simp only [List.count_append, Stash.templates]
        omega
    obtain ⟨s₁, ts₁, gone₁, entries₁, e₁, hs₁⟩ := htaken.shedding_forM
      (fun m => ∃ t ∈ ts, t.label ∈ stored.templates ∧ m ∈ t.released)
      (forgetWithin room) stored.templates fun x hx s' ts' hs' hsub => by
        obtain ⟨t, rest, hp, rfl, -⟩ := hs'.exists_top (n := x) (.inl (by simp [hx]))
        have hfind : s'.document.find? t.label = some t :=
          (show s'.document.Has (Tree.Context.top.plug t :: rest) from (hs'.perm hp).document).find?
        obtain ⟨s'', ts'', gone, entries, e, hsheds⟩ := hroom hs' hfind
        exact ⟨s'', ts'', gone, entries, e, hsheds.mono fun m hm =>
          ⟨t, hsub t (hp.mem_iff.2 List.mem_cons_self), hx, t.elementsBackward_subset hm⟩⟩
    obtain ⟨s₂, ts₂, gone₂, e₂, hp₂, hs₂, hstash, hgone⟩ := (htaken.shed hs₁).remove
    refine ⟨s₂, ts₂, gone₁ ++ gone₂, (element, stored) :: entries₁, ?_, ?_, hs₂.document,
      ?_, ?_, ?_⟩
    · exact (run_bind_of_ok hsome).trans ((run_bind_of_ok e₁).trans e₂)
    · exact hs₁.trees.trans ((hp₂.append_left gone₁).trans (.of_eq (List.append_assoc ..).symm))
    · rw [hstash]
      exact hperm.trans (hs₁.stash.cons _)
    · rw [Tree.tops_append, List.flatMap_cons]
      exact (hs₁.templates.append hgone).trans List.perm_append_comm
    · intro entry hentry
      rw [Tree.releasedOf_append, List.mem_append]
      rcases List.mem_cons.1 hentry with rfl | hentry
      · exact .inl rfl
      refine .inr ((hs₁.keys entry hentry).symm.imp_right ?_)
      rintro ⟨t, ht, hl, hm⟩
      have ht₁ := htaken.mem_of_kept hs₁ ht (List.mem_append_left _ hl)
      refine Tree.released_subset_of_mem ?_ hm
      refine (List.mem_append.1 (hp₂.mem_iff.1 ht₁)).resolve_right fun hstays => ?_
      have hnodup := ((htaken.shed hs₁).document.perm hp₂).sound.nodup
      rw [Tree.releasedOf_append, List.nodup_append] at hnodup
      exact hnodup.2.2 _ ((Tree.tops_sublist gone₂).subset (hgone.mem_iff.2 hl)) _
        (Tree.released_subset_of_mem hstays (Tree.label_mem_released t)) rfl

/-- Forgetting within a node sheds the templates of the elements below it. -/
lemma shedsBelow (room : Nat) : ShedsBelow room := by
  induction room with
  | zero => exact fun {s _ ts _ _} h _ => ⟨s, ts, [], [], rfl, .refl h.document⟩
  | succ room ih =>
    intro s kept ts n t h hn
    by_cases hempty : s.stash.isEmpty = true
    · refine ⟨s, ts, [], [], ?_, .refl h.document⟩
      simp only [forgetWithin, run_get, hempty, if_true, run_pure]
    · obtain ⟨s', ts', gone, entries, e, hs⟩ := h.shedding_forM
        (· ∈ t.elementsBackward) (forgetStored room) t.elementsBackward
        fun x hx s' ts' hs' _ => by
          obtain ⟨s'', ts'', gone, entries, e, hsheds⟩ := hs'.shedding_stored ih x
          exact ⟨s'', ts'', gone, entries, e, hsheds.mono fun m hm => hm ▸ hx⟩
      refine ⟨s', ts', gone, entries, ?_, hs⟩
      simp only [forgetWithin, run_get, hempty, Bool.false_eq_true, if_false]
      exact (run_bind_of_ok (run_node hn)).trans e

/-- What is stashed for the elements below a node is shed. -/
lemma Anchors.forgetBelow (h : Anchors s kept ts) (hn : s.document.find? n = some t) :
    Shedding (· ∈ t.elementsBackward) (Walk.forgetBelow n) s ts :=
  shedsBelow _ h hn

end Walk

end TreeTemplate
