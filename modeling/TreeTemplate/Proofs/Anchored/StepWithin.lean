import TreeTemplate.Proofs.Anchored.InPlace
import TreeTemplate.Proofs.Forest.Names

/-!
# Steps at an element

What each step of an operator at an element keeps in place. Changing the element itself, removing
texts from it and putting nodes behind those below it keep every element in place; clearing it,
filling it and taking templates out of it keep the elements that do not stand below it.

Main statements:

* `stepWithin_restyling`, `stepWithin_filling` — the steps of the operators at an element;
* `appendCopy_safe` — copies of templates that are stashed.
-/

namespace TreeTemplate.Walk

variable {α : Type} {s s' : State} {p : NodeId → Prop} {n m : NodeId} {t u : Tree NodeId}
  {clears : Prop}

/-- A walk that succeeds is safe if it keeps elements in place. -/
lemma Safe.of_ok {w : Walk α} {a : α} (e : w s = (.ok a, s')) (h : KeepsInPlace p s s') :
    Safe p s (w s) :=
  e ▸ ⟨nofun, h⟩

/-! ## Steps that clear nothing -/

/-- Changing an element itself is a step at it. -/
lemma stepWithin_restyle {f : Tree NodeId → Tree NodeId} (hf : Tree.RestylesOnly f) :
    StepWithin clears n Unit (editNode n f) := by
  intro s hs hn
  obtain ⟨C, tag, attrs, hidden, children, rest, h, hroot⟩ := hn.exists_plug hs
  obtain ⟨d, e, h'⟩ := h.editNode (hf.restyles _)
  obtain ⟨tag', attrs', hidden', hu⟩ := hf.exists_element n tag attrs hidden children
  refine .of_ok e (KeepsInPlace.mono ?_ fun _ hm => hm.1)
  exact .keep h hroot (hu ▸ h' :) (fun _ hw _ => hw) rfl

/-- Removing the texts of an element is a step at it. -/
lemma stepWithin_removeText : StepWithin clears n Unit (removeText n) := by
  intro s hs hn
  obtain ⟨C, tag, attrs, hidden, children, rest, h, hroot⟩ := hn.exists_plug hs
  obtain ⟨d, e, h'⟩ := h.removeChildrenWhere fun u => !u.isElement
  refine .of_ok (run_edit (g := fun n d => d.removeText? n) e)
    (KeepsInPlace.mono ?_ fun _ hm => hm.1)
  exact .keep h hroot h' (fun w hw hwelement => List.mem_filter.2 ⟨hw, by simp [hwelement]⟩) rfl

/-- All that changes an element itself or removes its texts is a step at it. -/
lemma stepWithin_restyling (clears : Prop) (n : NodeId) : Restyling (StepWithin clears n) n where
  toClosedAt := stepWithin_closed clears n
  restyle _ := stepWithin_restyle
  removeText := stepWithin_removeText

/-- A new tree is put behind the nodes below an element. -/
lemma keepsInPlace_plantAppend {ι : Type} (hs : Anchored [Document.root] s) (hn : Attached s n)
    (x : Tree ι) : ∃ (u : Tree NodeId) (d d' : Document), s.document.plant x = (u.label, d) ∧
      d.append? n u.label = some d' ∧ u.bare = x.bare ∧
      KeepsInPlace (Attached s) s { s with document := d' } ∧ d'.parent? u.label = some n ∧
      (u.isElement = true → Attached { s with document := d' } u.label) := by
  obtain ⟨C, tag, attrs, hidden, children, rest, h, hroot⟩ := hn.exists_plug hs
  obtain ⟨u, d, d', e, e', hbare, h'⟩ := h.plantAppend x
  have hinPlace : KeepsInPlace (Attached s) s { s with document := d' } :=
    .keep h hroot h' (fun w hw _ => List.mem_append_left _ hw) rfl
  refine ⟨u, d, d', e, e', hbare, hinPlace, h'.document.parent?, fun helement => ?_⟩
  refine (hinPlace.attached n hn).child hinPlace.anchored h'.document.find? ?_
  exact List.mem_filter.2 ⟨List.mem_append_right _ List.mem_cons_self, helement⟩

/-- Appending an option to an element is a step at it. -/
lemma stepWithin_appendOption (item : Value) :
    StepWithin clears n Unit (ContentOperator.appendOption n item) := by
  unfold ContentOperator.appendOption
  cases item.text? with
  | none => exact (stepWithin_closed clears n).refuse _
  | some shown =>
    intro s hs hn
    obtain ⟨u, d, d', e, e', -, hinPlace, -⟩ := keepsInPlace_plantAppend hs hn
      (.element () "option" [("value", shown)] false [.text () shown])
    have hedit : edit n (fun n d => d.append? n u.label) { s with document := d } =
      (.ok (), { s with document := d' }) := run_edit e'
    simp only [run_get, e]
    exact .of_ok ((run_bind_of_ok (run_modify _ s)).trans hedit) (hinPlace.mono fun _ hm => hm.1)

/-- A copy of a template that is stashed is put behind the nodes below an element. -/
lemma appendCopy_safe (hs : Anchored [Document.root] s) (hn : Attached s n)
    (hm : m ∈ s.stash.templates) :
    ∃ copy s', appendCopy n m s = (.ok copy, s') ∧ KeepsInPlace (Attached s) s s' ∧
      Attached s' copy ∧
      s'.document.parent? copy = some n ∧ s'.stash = s.stash := by
  obtain ⟨ts, hts⟩ := hs
  obtain ⟨template, rest, hp, rfl, helement⟩ := hts.exists_top (.inr hm)
  have hfind : s.document.find? template.label = some template :=
    (show s.document.Has (Tree.Context.top.plug template :: rest) from (hts.perm hp).document).find?
  obtain ⟨u, d, d', e, e', hbare, hinPlace, hparent, hcopy⟩ :=
    keepsInPlace_plantAppend ⟨ts, hts⟩ hn template
  have hedit : edit n (fun n d => d.append? n u.label) { s with document := d } =
    (.ok (), { s with document := d' }) := run_edit e'
  refine ⟨u.label, { s with document := d' }, ?_, hinPlace, hcopy ?_, hparent, rfl⟩
  · simp only [Walk.appendCopy, run_get, Document.clone?, hfind, Option.map_some, if_true, e]
    exact (run_bind_of_ok (run_modify _ s)).trans (run_bind_of_ok hedit)
  · rw [← Tree.isElement_relabel (fun _ => ()) u]
    exact (congrArg Tree.isElement hbare).trans ((Tree.isElement_relabel _ template).trans helement)

/-! ## Steps that clear an element -/

variable (hc : clears)
include hc

/-- What is stashed for the elements below an element is forgotten, and nothing else. -/
lemma stepWithin_forgetBelow : StepWithin clears n Unit (forgetBelow n) := by
  intro s hs hn
  obtain ⟨C, tag, attrs, hidden, children, rest, h, hroot⟩ := hn.exists_plug hs
  obtain ⟨s', ts', gone, entries, e, hsheds⟩ := h.forgetBelow h.document.find?
  obtain ⟨before, after, rfl⟩ := List.append_of_mem
    (h.mem_of_kept hsheds List.mem_cons_self (by simp [hroot]))
  have h' := (h.shed hsheds).perm List.perm_middle
  refine .of_ok e (.replace hc h hroot h' fun m stored hm hfind => ?_)
  obtain ⟨v, hv, rfl, -⟩ := (h.attached_iff hroot).1 hm.1
  have hleft : (s'.document.find? v.label).isSome :=
    h'.document.find?_isSome.2 (List.mem_append_left _ (Tree.label_mem_of_mem_nodes hv))
  rwa [((drops_forgetWithin _ h.document e).stash _ hleft).resolve_right (hm.2 hc)]

/-- Clearing an element is a step at it that clears. -/
lemma stepWithin_clear : StepWithin clears n Unit (clear n) := by
  refine (stepWithin_closed clears n).bind (stepWithin_forgetBelow hc) fun _ s hs hn => ?_
  obtain ⟨C, tag, attrs, hidden, children, rest, h, hroot⟩ := hn.exists_plug hs
  obtain ⟨d, e, h'⟩ := h.removeChildrenWhere fun _ => true
  exact .of_ok (run_edit (g := fun n d => d.removeChildren? n) e)
    (.replace hc h hroot h' fun _ _ _ hfind => hfind)

/-- Putting a text below an element is a step at it that clears. -/
lemma stepWithin_setText (content : String) :
    StepWithin clears n Unit (edit n fun n d => d.setText? n content) := by
  intro s hs hn
  obtain ⟨C, tag, attrs, hidden, children, rest, h, hroot⟩ := hn.exists_plug hs
  obtain ⟨planted, d, e, -, h'⟩ := h.replaceChildren [.text () content]
  exact .of_ok (run_edit (g := fun n d => d.setText? n content) e)
    (.replace hc h hroot h' fun _ _ _ hfind => hfind)

/-- Filling markup into an element is a step at it that clears. -/
lemma stepWithin_fillMarkup (markup : String) :
    StepWithin clears n Unit (ContentOperator.fillMarkup n markup) := by
  intro s hs hn
  obtain ⟨C, tag, attrs, hidden, children, rest, h, hroot⟩ := hn.exists_plug hs
  obtain ⟨planted, d, e, h'⟩ := h.setMarkup markup
  have hinPlace : KeepsInPlace (Outside clears n s) s { s with document := d } :=
    .replace hc h hroot h' fun _ _ _ hfind => hfind
  simp only [ContentOperator.fillMarkup, run_get, e]
  cases (Markup.read markup).fault? with
  | none => exact ⟨fun _ h => (by cases h), hinPlace⟩
  | some fault => exact ⟨fun _ h => (by cases h), hinPlace⟩

/-- Elements below an element are taken out of it as templates. -/
lemma stepWithin_stashTemplates (hs : Anchored [Document.root] s) (hn : Attached s n)
    (hnone : s.stash.find? n = none) (picked : List (Tree NodeId)) (stored : Stored)
    (hfind : s.document.find? n = some t) (hpicked : picked.Sublist t.elements)
    (hstored : stored.templates = picked.map Tree.label) :
    ∃ s', stashTemplates n stored s = (.ok (), s') ∧ KeepsInPlace (Outside clears n s) s s' := by
  obtain ⟨C, tag, attrs, hidden, children, rest, h, hroot⟩ := hn.exists_plug hs
  obtain rfl := Option.some.inj (h.document.find?.symm.trans hfind)
  obtain ⟨s', left, e, -, hentries, h'⟩ := h.stashTemplates hnone
    (hpicked.trans List.filter_sublist) (fun p hp => (List.mem_filter.1 (hpicked.subset hp)).2)
    hstored
  refine ⟨s', e, .replace hc h hroot h' fun m found _ hm => ?_⟩
  have hmem : m ≠ n := by
    rintro rfl
    rw [hnone] at hm
    cases hm
  rwa [Stash.find?, hentries, List.lookup_cons, beq_eq_false_iff_ne.2 hmem]

/-- Taking the template of a list out of an element is a step at it that clears. -/
lemma stepWithin_itemTemplate : StepWithin clears n NodeId (itemTemplate n) := by
  intro s hs hn
  have hsame : KeepsInPlace (Outside clears n s) s s := .refl hs fun _ hm => hm.1
  cases hfind : s.stash.find? n with
  | some stored =>
    simp only [itemTemplate, run_get, hfind]
    cases stored <;> exact .of_same hsame rfl fun _ h => by cases h
  | none =>
    obtain ⟨t, ht, -⟩ := hn.find? hs
    simp only [itemTemplate, run_get, hfind, run_bind_of_ok (run_node ht)]
    cases helements : t.elements with
    | nil => exact .of_same hsame rfl fun _ h => by cases h
    | cons template later =>
      obtain ⟨s', e, hinPlace⟩ := stepWithin_stashTemplates hc hs hn hfind [template]
        (.item template.label) ht (by simp [helements]) rfl
      exact .of_ok (run_bind_of_ok e) hinPlace

/-- Taking the templates of a map out of an element is a step at it that clears. -/
lemma stepWithin_entryTemplates : StepWithin clears n (NodeId × NodeId) (entryTemplates n) := by
  intro s hs hn
  have hsame : KeepsInPlace (Outside clears n s) s s := .refl hs fun _ hm => hm.1
  cases hfind : s.stash.find? n with
  | some stored =>
    simp only [entryTemplates, run_get, hfind]
    cases stored <;> exact .of_same hsame rfl fun _ h => by cases h
  | none =>
    obtain ⟨t, ht, -⟩ := hn.find? hs
    simp only [entryTemplates, run_get, hfind, run_bind_of_ok (run_node ht)]
    cases helements : t.elements with
    | nil => exact .of_same hsame rfl fun _ h => by cases h
    | cons key later =>
      cases later with
      | nil => exact .of_same hsame rfl fun _ h => by cases h
      | cons value later =>
        obtain ⟨s', e, hinPlace⟩ := stepWithin_stashTemplates hc hs hn hfind [key, value]
          (.entry key.label value.label) ht (by simp [helements]) rfl
        exact .of_ok (run_bind_of_ok e) hinPlace

/-- What fills an element. -/
lemma stepWithin_filling (n : NodeId) : Filling (StepWithin clears n) n :=
  { toRestyling := stepWithin_restyling clears n
    fillText := fun content =>
      (stepWithin_closed clears n).bind (stepWithin_forgetBelow hc) fun _ =>
        stepWithin_setText hc content
    setText := stepWithin_setText hc
    forgetBelow := stepWithin_forgetBelow hc
    clear := stepWithin_clear hc
    fillMarkup := stepWithin_fillMarkup hc
    itemTemplate := stepWithin_itemTemplate hc
    entryTemplates := stepWithin_entryTemplates hc
    appendOption := stepWithin_appendOption }

end TreeTemplate.Walk
