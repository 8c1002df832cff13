import TreeTemplate.Proofs.Anchored.Edits
import TreeTemplate.Proofs.Courses.Walks

/-!
# Walks keep templates at the tops of trees

Whatever a walk does, and wherever jumps lead it, the templates of the stash are tops of different
trees when it ends, if they were when it began.

Main statements:

* `holdsWalks_anchored` — whole walks.
-/

namespace TreeTemplate.Walk

variable {s : State} {kept : List NodeId} {ts rest : List (Tree NodeId)} {n : NodeId}
  {t : Tree NodeId}

/-- The kept nodes and the templates of the stash are tops of different trees of the document. -/
def Anchored (kept : List NodeId) (s : State) : Prop :=
  ∃ ts, Anchors s kept ts

/-- Staying anchored is a property for walks to keep. -/
lemma course_anchored : Course (Keeping (Anchored kept)) :=
  course_keeping fun _ _ hd hs ⟨ts, h⟩ => ⟨ts, h.congr hd hs⟩

namespace Anchored

/-- Only a node that the document has can be changed. -/
lemma find?_of_update? {d d' : Document} {f : Tree NodeId → Tree NodeId}
    (h : d.update? n f = some d') : ∃ t, d.find? n = some t := by
  by_contra hnone
  have hn : n ∉ Tree.releasedOf d.trees := fun hm => hnone (Tree.exists_findIn? hm)
  rw [Document.update?, Tree.updateIn?_of_notMem hn] at h
  cases h

/-- An edit keeps templates at the tops of trees if it does so where there is a node to work on. -/
lemma edit {f : NodeId → Document → Option Document}
    (hfind : ∀ d d', f n d = some d' → ∃ t, d.find? n = some t)
    (h : ∀ {s : State} {C : Tree.Context} {t : Tree NodeId} {rest : List (Tree NodeId)} {d},
      Anchors s kept (C.plug t :: rest) → f t.label s.document = some d →
      Anchored kept { s with document := d }) :
    Runs (Keeping (Anchored kept)) Unit (Walk.edit n f) := by
  rintro s ⟨ts, hs⟩
  cases e : f n s.document with
  | none =>
    rw [show Walk.edit n f s = (.error (.missing n), s) by simp only [Walk.edit, run_get, e]; rfl]
    exact ⟨ts, hs⟩
  | some d =>
    obtain ⟨t, ht⟩ := hfind _ _ e
    obtain ⟨C, rest, hs', rfl⟩ := hs.exists_plug ht
    rw [run_edit e]
    exact h hs' e

/-- Changing a node itself keeps a state anchored. -/
lemma editNode {f : Tree NodeId → Tree NodeId} (hf : ∀ t : Tree NodeId, t.Restyles (f t)) :
    Runs (Keeping (Anchored kept)) Unit (Walk.editNode n f) := by
  refine edit (fun _ _ => find?_of_update?) fun {s C t rest d} hs e => ?_
  obtain ⟨d', e', h'⟩ := hs.document.update? (f := f) ((hf t).released ▸ .refl _)
  obtain rfl : d' = d := Option.some.inj (e'.symm.trans e)
  exact ⟨_, hs.exchange rfl h' (hf t).label (hf t).isElement⟩

/-- Removing nodes directly below a node keeps a state anchored. -/
lemma removeChildrenWhere (test : Tree NodeId → Bool) :
    Runs (Keeping (Anchored kept)) Unit
      (Walk.edit n fun n d => d.removeChildrenWhere? n test) := by
  refine edit (fun d d' e => ?_) fun {s C t rest d} hs e => ?_
  · obtain ⟨t, ht, -⟩ := Option.bind_eq_some_iff.1 e
    exact ⟨t, ht⟩
  · obtain ⟨d', e', h'⟩ := hs.removeChildrenWhere test
    obtain rfl : d' = d := Option.some.inj (e'.symm.trans e)
    exact ⟨_, h'⟩

/-- Only an element that the document has can be filled. -/
lemma element_of_replaceChildren? {ι : Type} {d d' : Document} {us : List (Tree ι)}
    (h : d.replaceChildren? n us = some d') :
    ∃ t, d.find? n = some t ∧ t.isElement = true := by
  obtain ⟨t, ht, hfill⟩ := Option.bind_eq_some_iff.1 h
  refine ⟨t, ht, ?_⟩
  by_contra hne
  rw [if_neg hne] at hfill
  cases hfill

/-- Putting a text below a node keeps a state anchored. -/
lemma setText (content : String) : Runs (Keeping (Anchored kept)) Unit
    (Walk.edit n fun n d => d.setText? n content) := by
  refine edit (fun d d' e => ?_) fun {s C t rest d} hs e => ?_
  · obtain ⟨t, ht, -⟩ := element_of_replaceChildren? e
    exact ⟨t, ht⟩
  · obtain ⟨t', ht', helement⟩ := element_of_replaceChildren? e
    obtain rfl : t = t' := Option.some.inj (hs.document.find?.symm.trans ht')
    cases t with
    | text => cases helement
    | element m tag attrs hidden children =>
      obtain ⟨planted, d', e', -, h'⟩ := hs.replaceChildren [.text () content]
      obtain rfl : d' = d := Option.some.inj (e'.symm.trans e)
      exact ⟨_, h'⟩

/-- At a node that the document does not have nothing is forgotten. -/
lemma forgetWithin_of_missing (hn : s.document.find? n = none) (room : Nat) :
    (forgetWithin room n s).2 = s := by
  cases room with
  | zero => rfl
  | succ room =>
    have hnode : node n s = (.error (.missing n), s) := by
      simp only [node, run_get, hn, run_throw]
    simp only [forgetWithin, run_get]
    split
    · rfl
    · rw [run_bind_of_error hnode]

/-- Forgetting the templates below a node keeps a state anchored. -/
lemma forgetBelow (n : NodeId) : Runs (Keeping (Anchored kept)) Unit (Walk.forgetBelow n) := by
  rintro s ⟨ts, hs⟩
  cases hn : s.document.find? n with
  | some t =>
    obtain ⟨s', ts', gone, entries, e, hsheds⟩ := hs.forgetBelow hn
    rw [e]
    exact ⟨ts', hs.shed hsheds⟩
  | none =>
    rw [show (Walk.forgetBelow n s).2 = s from forgetWithin_of_missing hn _]
    exact ⟨ts, hs⟩

/-- Filling in markup keeps a state anchored. -/
lemma fillMarkup (n : NodeId) (markup : String) :
    Runs (Keeping (Anchored kept)) Unit (ContentOperator.fillMarkup n markup) := by
  rintro s ⟨ts, hs⟩
  cases e : s.document.setMarkup? n markup with
  | none =>
    rw [show ContentOperator.fillMarkup n markup s = (.error (.missing n), s) by
      simp only [ContentOperator.fillMarkup, run_get, e, run_throw]]
    exact ⟨ts, hs⟩
  | some left =>
    obtain ⟨d, fault?⟩ := left
    obtain ⟨filled, hfilled, -⟩ := Option.bind_eq_some_iff.1 e
    obtain ⟨t, ht, helement⟩ := element_of_replaceChildren? hfilled
    obtain ⟨C, rest, hs', rfl⟩ := hs.exists_plug ht
    cases t with
    | text => cases helement
    | element m tag attrs hidden children =>
      obtain ⟨planted, d', e', h'⟩ := hs'.setMarkup markup
      obtain ⟨rfl, -⟩ := Prod.mk.inj (Option.some.inj (e'.symm.trans e))
      have hstate : (ContentOperator.fillMarkup m markup s).2 = { s with document := d' } := by
        simp only [ContentOperator.fillMarkup, run_get]
        rw [show s.document.setMarkup? m markup = some (d', fault?) from e]
        cases fault? <;> rfl
      rw [show (Tree.element m tag attrs hidden children).label = m from rfl, hstate]
      exact ⟨_, h'⟩

/-! ## New nodes -/

/-- A new tree, and putting it behind the nodes below an element if there is such an element. -/
lemma append {ι : Type} (hs : Anchors s kept ts) (x : Tree ι) (parent : NodeId) :
    Anchored kept (Walk.edit parent (fun n d => d.append? n (s.document.plant x).1)
      { s with document := (s.document.plant x).2 }).2 := by
  obtain ⟨u, d, e, -, hplanted⟩ := hs.plant x
  rw [e]
  cases happend : d.append? parent u.label with
  | none =>
    rw [show Walk.edit parent (fun n d => d.append? n u.label) { s with document := d } =
      (.error (.missing parent), { s with document := d }) by
        simp only [Walk.edit, run_get, happend]; rfl]
    exact ⟨_, hplanted⟩
  | some d' =>
    rw [run_edit (g := fun n d => d.append? n u.label) happend]
    obtain ⟨before, after, etrees, hrest, hnot⟩ := hplanted.document.exists_middle
    replace etrees : d.trees = before ++ u :: after := etrees
    obtain ⟨hbefore, hafter⟩ := hnot _ (Tree.label_mem_released u)
    -- the element is found among the trees that were there before
    have hfound := happend
    simp only [Document.append?, etrees, Tree.takeIn?_middle_self hbefore hafter rfl,
      Option.bind_eq_bind, Option.bind_some] at hfound
    obtain ⟨found, hfind, hfill⟩ := Option.bind_eq_some_iff.1 hfound
    obtain ⟨first, C, last, etrees'⟩ := Tree.exists_plug_of_findIn? hfind
    obtain rfl := Tree.findIn?_label hfind
    have hperm : ts.Perm (C.plug found :: (first ++ last)) :=
      hrest.symm.trans (etrees' ▸ List.perm_middle)
    cases found with
    | text => cases hfill
    | element m tag attrs hidden children =>
      obtain ⟨u', d₁, d₁', eplant, eappend, -, hleft⟩ := (hs.perm hperm).plantAppend x
      obtain ⟨hlabel, rfl⟩ := Prod.mk.inj (eplant.symm.trans e)
      rw [hlabel] at eappend
      obtain rfl : d₁' = d' := Option.some.inj (eappend.symm.trans happend)
      exact ⟨_, hleft⟩

/-- Putting a copy below an element keeps a state anchored. -/
lemma appendCopy (parent template : NodeId) :
    Runs (Keeping (Anchored kept)) NodeId (Walk.appendCopy parent template) := by
  rintro s ⟨ts, hs⟩
  cases hfind : s.document.find? template with
  | none =>
    rw [show Walk.appendCopy parent template s = (.error (.missing template), s) by
      simp only [Walk.appendCopy, run_get, Document.clone?, hfind, Option.map_none, run_throw]]
    exact ⟨ts, hs⟩
  | some t =>
    have hleft := append hs t parent
    have hwalk : Walk.appendCopy parent template s =
        (do
          Walk.edit parent fun n d => d.append? n (s.document.plant t).1
          return (s.document.plant t).1) { s with document := (s.document.plant t).2 } := by
      simp only [Walk.appendCopy, run_get, Document.clone?, hfind, Option.map_some, if_true]
      rfl
    rw [hwalk]
    rcases e : Walk.edit parent (fun n d => d.append? n (s.document.plant t).1)
        { s with document := (s.document.plant t).2 } with ⟨stop | _, s'⟩
    · rw [run_bind_of_error e]
      exact (e ▸ hleft :)
    · rw [run_bind_of_ok e]
      exact (e ▸ hleft :)

/-- Appending an option keeps a state anchored. -/
lemma appendOption (n : NodeId) (item : Value) :
    Runs (Keeping (Anchored kept)) Unit (ContentOperator.appendOption n item) := by
  unfold ContentOperator.appendOption
  cases item.text? with
  | none => exact course_anchored.closed.refuse _
  | some shown =>
    rintro s ⟨ts, hs⟩
    exact append hs (.element () "option" [("value", shown)] false [.text () shown]) n

/-! ## Templates -/

/-- Elements below a node are taken out of it as templates, where nothing is stashed for it. -/
lemma stashTemplates (picked : List (Tree NodeId)) (stored : Stored) (hs : Anchors s kept ts)
    (hnone : s.stash.find? n = none) (hn : s.document.find? n = some t)
    (hpicked : picked.Sublist t.elements)
    (hstored : stored.templates = picked.map Tree.label) :
    ∃ s', Walk.stashTemplates n stored s = (.ok (), s') ∧ Anchored kept s' := by
  obtain ⟨C, rest, hs', rfl⟩ := hs.exists_plug hn
  have helements : ∀ p ∈ picked, p.isElement = true := fun p hp =>
    (List.mem_filter.1 (hpicked.subset hp)).2
  cases t with
  | text m content =>
    obtain rfl : picked = [] := List.sublist_nil.1 hpicked
    have hempty : stored.templates = [] := hstored
    cases stored <;> cases hempty
  | element m tag attrs hidden children =>
    obtain ⟨s', left, e, -, -, hleft⟩ := hs'.stashTemplates hnone
      (hpicked.trans List.filter_sublist) helements hstored
    exact ⟨s', e, _, hleft⟩

/-- Taking the template of a list keeps a state anchored. -/
lemma itemTemplate (n : NodeId) :
    Runs (Keeping (Anchored kept)) NodeId (Walk.itemTemplate n) := by
  rintro s ⟨ts, hs⟩
  cases hfind : s.stash.find? n with
  | some stored =>
    have hsame : (Walk.itemTemplate n s).2 = s := by
      simp only [Walk.itemTemplate, run_get, hfind]
      cases stored <;> rfl
    rw [hsame]
    exact ⟨ts, hs⟩
  | none =>
    cases hn : s.document.find? n with
    | none =>
      have hnode : node n s = (.error (.missing n), s) := by
        simp only [node, run_get, hn, run_throw]
      simp only [Walk.itemTemplate, run_get, hfind, run_bind_of_error hnode]
      exact ⟨ts, hs⟩
    | some t =>
      simp only [Walk.itemTemplate, run_get, hfind, run_bind_of_ok (run_node hn)]
      cases helements : t.elements with
      | nil => exact ⟨ts, hs⟩
      | cons template later =>
        obtain ⟨s', e, hleft⟩ :=
          stashTemplates [template] (.item template.label) hs hfind hn (by simp [helements]) rfl
        dsimp only
        rw [run_bind_of_ok e]
        exact hleft

/-- Taking the templates of a map keeps a state anchored. -/
lemma entryTemplates (n : NodeId) :
    Runs (Keeping (Anchored kept)) (NodeId × NodeId) (Walk.entryTemplates n) := by
  rintro s ⟨ts, hs⟩
  cases hfind : s.stash.find? n with
  | some stored =>
    have hsame : (Walk.entryTemplates n s).2 = s := by
      simp only [Walk.entryTemplates, run_get, hfind]
      cases stored <;> rfl
    rw [hsame]
    exact ⟨ts, hs⟩
  | none =>
    cases hn : s.document.find? n with
    | none =>
      have hnode : node n s = (.error (.missing n), s) := by
        simp only [node, run_get, hn, run_throw]
      simp only [Walk.entryTemplates, run_get, hfind, run_bind_of_error hnode]
      exact ⟨ts, hs⟩
    | some t =>
      simp only [Walk.entryTemplates, run_get, hfind, run_bind_of_ok (run_node hn)]
      cases helements : t.elements with
      | nil => exact ⟨ts, hs⟩
      | cons key later =>
        cases later with
        | nil => exact ⟨ts, hs⟩
        | cons value later =>
          obtain ⟨s', e, hleft⟩ := stashTemplates [key, value]
            (.entry key.label value.label) hs hfind hn (by simp [helements]) rfl
          dsimp only
          rw [run_bind_of_ok e]
          exact hleft

/-- All that is done to fill an element keeps a state anchored. -/
lemma filling (n : NodeId) : Filling (Runs (Keeping (Anchored kept))) n :=
  have hclosed := (course_anchored : Course (Keeping (Anchored kept))).closed
  have hclear (f : NodeId → Document → Option Document)
      (hf : Runs (Keeping (Anchored kept)) Unit (Walk.edit n f)) :
      Runs (Keeping (Anchored kept)) Unit (do Walk.forgetBelow n; Walk.edit n f) :=
    hclosed.bind (forgetBelow n) fun _ => hf
  { toClosedAt := hclosed.element n
    restyle := fun _ hf => editNode hf.restyles
    removeText := removeChildrenWhere _
    fillText := fun content => hclear _ (setText content)
    setText := setText
    forgetBelow := forgetBelow n
    clear := hclear _ (removeChildrenWhere _)
    fillMarkup := fillMarkup n
    itemTemplate := itemTemplate n
    entryTemplates := entryTemplates n
    appendOption := appendOption n }

end Anchored

/-- Whole walks keep templates at the tops of trees. -/
lemma holdsWalks_anchored : HoldsWalks (Runs (Keeping (Anchored kept))) where
  filling := Anchored.filling
  appendCopy := Anchored.appendCopy
  deeper h s hs := by
    obtain ⟨ts, hs⟩ := hs
    obtain ⟨ts', hs'⟩ := h { s with depth := s.depth + 1 } ⟨ts, hs.congr rfl rfl⟩
    exact ⟨ts', hs'.congr rfl rfl⟩
  counting ordered _ xs _ h := by
    have hadvance : Runs (Keeping (Anchored kept)) Unit (advance ordered) := by
      cases ordered with
      | true => exact fun _ ⟨ts, hs⟩ => ⟨ts, hs.congr rfl rfl⟩
      | false => exact course_anchored.refl
    have hitems := course_anchored.closed.forM fun x (_ : x ∈ xs) =>
      course_anchored.closed.bind hadvance fun _ => h x
    cases ordered with
    | true =>
      intro s hs
      obtain ⟨ts, hs⟩ := hs
      obtain ⟨ts', hs'⟩ := hitems { s with positions := 0 :: s.positions } ⟨ts, hs.congr rfl rfl⟩
      exact ⟨ts', hs'.congr rfl rfl⟩
    | false => exact hitems

end TreeTemplate.Walk
