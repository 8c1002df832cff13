import TreeTemplate.Proofs.Anchored.Basic
import TreeTemplate.Proofs.Courses.Basic
import TreeTemplate.Proofs.Courses.Taking
import TreeTemplate.Proofs.Forest.Ancestry
import TreeTemplate.Walk.Content

/-!
# Elements that are cleared

Where an element is cleared, what is stashed for the element itself stays, and clearing it a second
time does nothing. So a list or a map that was cleared for copies and is then undone stays as it is.
This does not depend on what is stashed: where templates stand in each other, or above the element,
either the element goes with them or nothing is forgotten that is stashed for it.

Main statements:

* `Drops`, `drops_forgetWithin` — what is forgotten with the templates of an element;
* `clear_again` — an element that was cleared;
* `undo_list`, `undo_map` — lists and maps that were cleared for copies.
-/

namespace TreeTemplate

/-- Where nothing is below a node, there is nothing to remove. -/
lemma Document.removeChildren?_of_children {d : Document} {n : NodeId} {t : Tree NodeId}
    (hn : d.find? n = some t) (h : t.children = []) : d.removeChildren? n = some d := by
  have hsame : t.setChildren [] = t := by
    cases t with
    | element m tag attrs hidden children =>
      rw [show children = [] from h]
      rfl
    | text m content => rfl
  obtain ⟨d', hupdate, -, hd⟩ := Document.exists_update? (f := fun t => t.setChildren []) hn
    (congrArg Tree.label hsame)
  have hsupply : d.supply.give [] = d.supply := rfl
  rw [hd hsame] at hupdate
  simp only [removeChildren?, removeChildrenWhere?, hn, h, Option.bind_eq_bind, Option.bind_some,
    List.partition_eq_filter_filter, List.filter_nil, hupdate, Tree.releasedOf_nil, hsupply]

namespace Walk

variable {s s' s'' : State} {ts : List (Tree NodeId)} {n : NodeId} {t : Tree NodeId}
  {p q : NodeId → Prop} {room : Nat}

/-! ## Templates are forgotten -/

/-- From one state to another nodes are removed, and of the nodes that are left only some lose what
is stashed for them. -/
structure Drops (p : NodeId → Prop) (s s' : State) : Prop where
  has : ∃ ts, s'.document.Has ts
  prunes : s.document.Prunes s'.document
  stash : ∀ n, (s'.document.find? n).isSome → s'.stash.find? n = s.stash.find? n ∨ p n

namespace Drops

/-- Nothing is dropped where nothing happens. -/
lemma refl (h : s.document.Has ts) : Drops p s s :=
  ⟨⟨ts, h⟩, .refl _, fun _ _ => .inl rfl⟩

/-- What is dropped in two steps is dropped in both together. -/
lemma trans (h : Drops p s s') (h' : Drops p s' s'') : Drops p s s'' := by
  refine ⟨h'.has, h.prunes.trans h'.prunes, fun n hn => ?_⟩
  refine (h'.stash n hn).elim (fun e => ?_) .inr
  rw [e]
  exact h.stash n (h'.prunes.found n hn)

/-- Fewer nodes may be left to keep what is stashed for them. -/
lemma mono (h : Drops p s s') (hpq : ∀ n, (s'.document.find? n).isSome → p n → q n) :
    Drops q s s' :=
  ⟨h.has, h.prunes, fun n hn => (h.stash n hn).imp_right (hpq n hn)⟩

end Drops

/-- A loop forgets what its rounds forget. -/
lemma drops_forM {γ : Type} {xs : List γ} {f : γ → Walk Unit} (hs : s.document.Has ts)
    (hf : ∀ x ∈ xs, ∀ {t t' : State} {us : List (Tree NodeId)}, t.document.Has us →
      f x t = (.ok (), t') → Drops p t t')
    (h : xs.forM f s = (.ok (), s')) : Drops p s s' := by
  induction xs generalizing s ts with
  | nil =>
    cases h
    exact .refl hs
  | cons x xs ih =>
    obtain ⟨t, hx, hxs⟩ := exists_of_run_forM_cons h
    have hfirst := hf x List.mem_cons_self hs hx
    obtain ⟨us, ht⟩ := hfirst.has
    exact hfirst.trans (ih ht (fun y hy => hf y (List.mem_cons_of_mem _ hy)) hxs)

/-- Nodes are removed, and nothing else is forgotten. -/
lemma drops_remove {xs : List NodeId} (hs : s.document.Has ts)
    (h : xs.forM remove s = (.ok (), s')) :
    Drops (fun _ => False) s s' ∧ ∀ x ∈ xs, s'.document.find? x = none := by
  induction xs generalizing s ts with
  | nil =>
    cases h
    exact ⟨.refl hs, fun _ hx => nomatch hx⟩
  | cons x xs ih =>
    obtain ⟨t, hx, hxs⟩ := exists_of_run_forM_cons h
    cases hremove : s.document.remove? x with
    | none =>
      simp only [remove, edit, run_get, hremove] at hx
      cases hx
    | some d =>
      obtain rfl := (Prod.mk.inj ((run_edit (g := fun n d => d.remove? n) hremove).symm.trans hx)).2
      obtain ⟨us, hd, hprunes, hgone⟩ := hs.prunes_remove? hremove
      obtain ⟨hlater, hothers⟩ := ih (s := { s with document := d }) hd hxs
      have hfirst : Drops (fun _ => False) s { s with document := d } :=
        ⟨⟨us, hd⟩, hprunes, fun _ _ => .inl rfl⟩
      refine ⟨hfirst.trans hlater, List.forall_mem_cons.2 ⟨?_, hothers⟩⟩
      rw [← Option.not_isSome_iff_eq_none]
      intro hsome
      have hfound := hlater.prunes.found x hsome
      rw [show ({ s with document := d } : State).document.find? x = none from hgone] at hfound
      cases hfound

/-- Forgetting the templates within a node forgets nothing of what is left elsewhere. -/
def DropsWithin (room : Nat) : Prop :=
  ∀ {s s' : State} {ts : List (Tree NodeId)} {n : NodeId}, s.document.Has ts →
    forgetWithin room n s = (.ok (), s') → Drops (s.document.Above n) s s'

/-- Templates are removed with what is stashed for elements within them. Of what is left nothing is
forgotten, as it is not below any of them. -/
lemma DropsWithin.templates {templates : List NodeId} (h : DropsWithin room)
    (hs : s.document.Has ts) (hwithin : templates.forM (forgetWithin room) s = (.ok (), s'))
    (hremove : templates.forM remove s' = (.ok (), s'')) : Drops (fun _ => False) s s'' := by
  -- what is forgotten is told by what is above it in the end
  have hall : Drops (fun n => ∃ template ∈ templates, s'.document.Above template n) s s' := by
    clear hremove
    induction templates generalizing s ts with
    | nil =>
      cases hwithin
      exact .refl hs
    | cons template templates ih =>
      obtain ⟨t, hfirst, hlater⟩ := exists_of_run_forM_cons hwithin
      replace hfirst := h hs hfirst
      obtain ⟨us, ht⟩ := hfirst.has
      replace hlater := ih ht hlater
      obtain ⟨vs, hs'⟩ := hlater.has
      refine ⟨hlater.has, hfirst.prunes.trans hlater.prunes, fun n hn => ?_⟩
      rcases hlater.stash n hn with e | ⟨other, hother, habove⟩
      · rw [e]
        refine (hfirst.stash n (hlater.prunes.found n hn)).imp_right fun habove => ?_
        exact ⟨template, List.mem_cons_self,
          ((hfirst.prunes.trans hlater.prunes).above hs' hn).1 habove⟩
      · exact .inr ⟨other, List.mem_cons_of_mem _ hother, habove⟩
  obtain ⟨us, hs'⟩ := hall.has
  obtain ⟨hleft, hgone⟩ := drops_remove hs' hremove
  obtain ⟨vs, hs''⟩ := hleft.has
  refine ⟨hleft.has, hall.prunes.trans hleft.prunes, fun n hn => .inl ?_⟩
  rw [(hleft.stash n hn).resolve_right id]
  refine (hall.stash n (hleft.prunes.found n hn)).resolve_right ?_
  rintro ⟨template, htemplate, habove⟩
  have hfound := (hs''.find?_of_above ((hleft.prunes.above hs'' hn).1 habove)).1
  rw [hgone template htemplate] at hfound
  cases hfound

/-- Forgetting what is within a node forgets nothing of what is left elsewhere. -/
lemma drops_forgetWithin (room : Nat) : DropsWithin room := by
  induction room with
  | zero =>
    intro s s' ts n hs h
    cases h
    exact .refl hs
  | succ room ih =>
    intro s s' ts n hs h
    simp only [forgetWithin, run_get] at h
    split at h
    · cases h
      exact .refl hs
    obtain ⟨t, s₁, hnode, h⟩ := exists_of_run_bind h
    cases hn : s.document.find? n with
    | none =>
      simp only [node, run_get, hn] at hnode
      cases hnode
    | some u =>
      obtain ⟨rfl, rfl⟩ : u = t ∧ s = s₁ := by
        rw [run_node hn] at hnode
        exact ⟨Except.ok.inj (Prod.mk.inj hnode).1, (Prod.mk.inj hnode).2⟩
      refine drops_forM hs (fun element helement {t t' us} ht hbody => ?_) h
      -- nothing is forgotten but what is stashed for elements below the node
      have hbelow : s.document.Above n element := by
        refine hs.above_of_mem hn ?_
        cases u with
        | element m tag attrs hidden children =>
          exact Tree.elementsBackwardOf_subset children helement
        | text m content => cases helement
      cases htake : t.stash.take? element with
      | none =>
        have hnothing : takeStored element t = (.ok none, t) := by
          simp only [takeStored, run_get, htake]
          rfl
        rw [run_bind_of_ok hnothing] at hbody
        cases hbody
        exact .refl ht
      | some taken =>
        obtain ⟨stored, rest⟩ := taken
        have htaken : takeStored element t = (.ok (some stored), { t with stash := rest }) := by
          simp only [takeStored, run_get, htake]
          rfl
        rw [run_bind_of_ok htaken] at hbody
        obtain ⟨_, t₁, hwithin, hremove⟩ := exists_of_run_bind hbody
        have hfirst : Drops (s.document.Above n) t { t with stash := rest } := by
          refine ⟨⟨us, ht⟩, .refl _, fun m _ => ?_⟩
          by_cases hm : m = element
          · exact .inr (hm ▸ hbelow)
          · exact .inl (Stash.find?_of_take?_of_ne htake hm)
        exact hfirst.trans ((ih.templates (s := { t with stash := rest }) ht hwithin hremove).mono
          fun _ _ h => h.elim)

/-! ## Documents in which identities are used once -/

/-- The document of a state uses every identity once. -/
def IdentitiesOnce (s : State) : Prop :=
  ∃ ts, s.document.Has ts

/-- Using every identity once is a property for walks to keep. -/
lemma course_identitiesOnce : Course (Keeping IdentitiesOnce) :=
  course_keeping fun _ _ hd _ ⟨ts, h⟩ => ⟨ts, hd ▸ h⟩

/-- Whatever takes nodes away leaves every identity used once. -/
lemma taking_identitiesOnce : Taking (Runs (Keeping IdentitiesOnce)) where
  pure := course_identitiesOnce.closed.pure
  bind := course_identitiesOnce.closed.bind
  get := course_identitiesOnce.closed.get
  missing _ := course_identitiesOnce.closed.throw _
  refuse _ _ := course_identitiesOnce.closed.refuse _
  setStash _ _ h := h
  detach n := by
    rintro s ⟨ts, hs⟩
    cases hdetach : s.document.detach? n with
    | none =>
      simp only [edit, run_get, hdetach]
      exact ⟨ts, hs⟩
    | some d =>
      rw [run_edit (g := fun n d => d.detach? n) hdetach]
      have hn : n ∈ Tree.releasedOf s.document.trees := by
        by_contra hnone
        rw [Document.detach?, Tree.takeIn?_of_notMem hnone] at hdetach
        cases hdetach
      obtain ⟨t, ht⟩ := Tree.exists_findIn? hn
      obtain ⟨C, rest, -, hplug, rfl⟩ := hs.exists_plug ht
      -- a tree of its own stays one, and a node inside of one becomes one
      cases C with
      | top =>
        obtain ⟨d', e, hd⟩ := hplug.detach?_top
        exact ⟨_, Option.some.inj (e.symm.trans hdetach) ▸ hd⟩
      | inside outer m tag attrs hidden before after =>
        obtain ⟨d', e, hd⟩ := Document.Has.detach? hplug
        exact ⟨_, Option.some.inj (e.symm.trans hdetach) ▸ hd⟩
  remove n := by
    rintro s ⟨ts, hs⟩
    cases hremove : s.document.remove? n with
    | none =>
      simp only [remove, edit, run_get, hremove]
      exact ⟨ts, hs⟩
    | some d =>
      rw [remove, run_edit (g := fun n d => d.remove? n) hremove]
      obtain ⟨us, hd, -⟩ := hs.prunes_remove? hremove
      exact ⟨us, hd⟩

/-! ## Clearing an element -/

/-- Where no element is below a node, nothing is forgotten. -/
lemma forgetBelow_of_elementsBackward (hn : s.document.find? n = some t)
    (h : t.elementsBackward = []) : forgetBelow n s = (.ok (), s) := by
  show forgetWithin s.stash.entries.length n s = _
  cases s.stash.entries.length with
  | zero => rfl
  | succ room =>
    simp only [forgetWithin, run_get]
    split
    · rfl
    · rw [run_bind_of_ok (run_node hn), h]
      rfl

/-- An element that was cleared has nothing below it and what was stashed for it, and to clear it
again does nothing. -/
lemma clear_again (h : IdentitiesOnce s) (hclear : Walk.clear n s = (.ok (), s')) :
    Walk.clear n s' = (.ok (), s') ∧ (∃ t, s'.document.find? n = some t) ∧
      s'.stash.find? n = s.stash.find? n := by
  obtain ⟨ts, hs⟩ := h
  obtain ⟨_, s₁, hforget, hedit⟩ := exists_of_run_bind hclear
  have hdrops := drops_forgetWithin _ hs hforget
  obtain ⟨us, hs₁⟩ := hdrops.has
  cases hremove : s₁.document.removeChildren? n with
  | none =>
    simp only [edit, run_get, hremove] at hedit
    cases hedit
  | some d =>
    have hleft := run_edit (g := fun n d => d.removeChildren? n) hremove
    obtain rfl := (Prod.mk.inj (hleft.symm.trans hedit)).2
    obtain ⟨u, hu, -⟩ := Option.bind_eq_some_iff.1 hremove
    obtain ⟨C, rest, -, hplug, rfl⟩ := hs₁.exists_plug hu
    obtain ⟨d', hremove', hd⟩ := hplug.removeChildrenWhere?_plug fun _ => true
    obtain rfl : d' = d := Option.some.inj (hremove'.symm.trans hremove)
    rw [List.filter_eq_nil_iff.2 (by simp)] at hd
    have hfind : d'.find? u.label = some (u.setChildren []) := by
      have hl : (u.setChildren []).label = u.label := by cases u <;> rfl
      exact hl ▸ hd.find?
    have hempty : (u.setChildren []).children = [] := by cases u <;> rfl
    refine ⟨?_, ⟨_, hfind⟩, ?_⟩
    · have hforget := forgetBelow_of_elementsBackward (s := { s₁ with document := d' }) hfind
        (by cases u <;> rfl)
      exact (run_bind_of_ok hforget).trans
        (run_edit (Document.removeChildren?_of_children hfind hempty))
    · exact (hdrops.stash u.label (hu ▸ rfl)).resolve_right hs.not_above_self

/-! ## Lists and maps that are undone -/

/-- Templates that were stashed for an element are found there. -/
lemma stashTemplates_find? {stored : Stored} (h : Walk.stashTemplates n stored s = (.ok (), s')) :
    s'.stash.find? n = some stored := by
  rcases e : (stored.templates.forM fun template => Walk.edit template fun n d => d.detach? n) s
    with ⟨stop | _, s₁⟩
  · rw [Walk.stashTemplates, run_bind_of_error e] at h
    cases h
  · rw [Walk.stashTemplates, run_bind_of_ok e] at h
    cases h
    exact Stash.find?_insert_self _ n stored

/-- The template of a list that was taken is stashed for it. -/
lemma itemTemplate_find? {template : NodeId} (h : Walk.itemTemplate n s = (.ok template, s')) :
    s'.stash.find? n = some (.item template) := by
  cases hfind : s.stash.find? n with
  | some stored =>
    simp only [Walk.itemTemplate, run_get, hfind] at h
    cases stored with
    | item found =>
      cases h
      exact hfind
    | entry key value => cases h
  | none =>
    simp only [Walk.itemTemplate, run_get, hfind] at h
    rcases hnode : node n s with ⟨stop | t, s₁⟩
    · rw [run_bind_of_error hnode] at h
      cases h
    rw [run_bind_of_ok hnode] at h
    cases helements : t.elements with
    | nil =>
      rw [helements] at h
      cases h
    | cons found later =>
      rw [helements] at h
      rcases e : Walk.stashTemplates n (.item found.label) s₁ with ⟨stop | _, s₂⟩
      · simp only [run_bind_of_error e] at h
        cases h
      · simp only [run_bind_of_ok e] at h
        cases h
        exact stashTemplates_find? e

/-- The templates of a map that were taken are stashed for it. -/
lemma entryTemplates_find? {key value : NodeId}
    (h : Walk.entryTemplates n s = (.ok (key, value), s')) :
    s'.stash.find? n = some (.entry key value) := by
  cases hfind : s.stash.find? n with
  | some stored =>
    simp only [Walk.entryTemplates, run_get, hfind] at h
    cases stored with
    | item found => cases h
    | entry key value =>
      cases h
      exact hfind
  | none =>
    simp only [Walk.entryTemplates, run_get, hfind] at h
    rcases hnode : node n s with ⟨stop | t, s₁⟩
    · rw [run_bind_of_error hnode] at h
      cases h
    rw [run_bind_of_ok hnode] at h
    match helements : t.elements with
    | [] =>
      rw [helements] at h
      cases h
    | [_] =>
      rw [helements] at h
      cases h
    | first :: second :: later =>
      rw [helements] at h
      rcases e : Walk.stashTemplates n (.entry first.label second.label) s₁ with ⟨stop | _, s₂⟩
      · simp only [run_bind_of_error e] at h
        cases h
      · simp only [run_bind_of_ok e] at h
        cases h
        exact stashTemplates_find? e

/-- A list that was cleared for copies is left as it is where it is undone. -/
lemma undo_list {template : NodeId} {s₁ s₂ : State} {ordered : Bool} (hs : IdentitiesOnce s)
    (htemplate : Walk.itemTemplate n s = (.ok template, s₁))
    (hclear : Walk.clear n s₁ = (.ok (), s₂)) :
    (ContentOperator.list ordered).undo n s₂ = (.ok (), s₂) := by
  obtain ⟨hagain, -, hstays⟩ :=
    clear_again ((taking_identitiesOnce.itemTemplate n).of_ok htemplate hs) hclear
  have hfound := hstays.trans (itemTemplate_find? htemplate)
  have htaken : Walk.itemTemplate n s₂ = (.ok template, s₂) := by
    simp only [Walk.itemTemplate, run_get, hfound]
    rfl
  exact (run_bind_of_ok htaken).trans hagain

/-- A map that was cleared for copies is left as it is where it is undone. -/
lemma undo_map {templates : NodeId × NodeId} {s₁ s₂ : State} {ordered : Bool}
    (hs : IdentitiesOnce s) (htemplates : Walk.entryTemplates n s = (.ok templates, s₁))
    (hclear : Walk.clear n s₁ = (.ok (), s₂)) :
    (ContentOperator.map ordered).undo n s₂ = (.ok (), s₂) := by
  obtain ⟨hagain, -, hstays⟩ :=
    clear_again ((taking_identitiesOnce.entryTemplates n).of_ok htemplates hs) hclear
  have hfound := hstays.trans (entryTemplates_find? htemplates)
  have htaken : Walk.entryTemplates n s₂ = (.ok templates, s₂) := by
    simp only [Walk.entryTemplates, run_get, hfound]
    rfl
  exact (run_bind_of_ok htaken).trans hagain

end Walk

end TreeTemplate
