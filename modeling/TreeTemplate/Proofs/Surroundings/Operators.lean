import TreeTemplate.Proofs.Courses.Triples
import TreeTemplate.Proofs.Surroundings.Basic

/-!
# Operators and surroundings

What the operators of an element leave in its surroundings. Markup that is filled in may hold jumps.
All that is filled in otherwise holds none, and so do templates that are taken out of an element
below which there was none.

Main statements:

* `plainFilling_intact` — every operator that makes no copies, whatever is below the element;
* `decorating_stands`, `stocking_plain` — attributes, and clearing an element for copies, where
  there
  are no jumps below the element;
* `leads_servings` — the templates of what an element is cleared for are held for it.
-/

namespace TreeTemplate.Walk

variable {s : State} {φ : Surroundings} {q q' : Tree NodeId → Prop} {stored : Stored}

/-- In the surroundings stands an element, and what is directly below it has a property. -/
def Stands (φ : Surroundings) (q : Tree NodeId → Prop) (s : State) : Prop :=
  ∃ t, StandsIn φ s t ∧ ∀ u ∈ t.children, q u

/-- In the surroundings stands an element. -/
abbrev Intact (φ : Surroundings) : State → Prop :=
  Stands φ fun _ => True

/-- In the surroundings stands an element below which no jump leaves an element. -/
abbrev Plain (φ : Surroundings) : State → Prop :=
  Stands φ (Tree.JumpFree φ.dialect)

/-- Where an element stands in the surroundings these are intact. -/
lemma Stands.intact (h : Stands φ q s) : Intact φ s :=
  let ⟨t, ht, _⟩ := h
  ⟨t, ht, fun _ _ => trivial⟩

/-- What is held for an element need not be held. -/
lemma Stands.release (h : Stands (φ.own stored) q s) : Stands φ q s :=
  let ⟨t, ht, hq⟩ := h
  ⟨t, ht.release, hq⟩

/-- Standing in surroundings is a property for walks to keep. -/
lemma course_stands : Course (Keeping (Stands φ q)) :=
  course_keeping fun _ _ hd hs ⟨t, h, hq⟩ => ⟨t, h.congr hd hs, hq⟩

namespace Stands

/-- Removing nodes directly below an element leaves it in its surroundings. -/
lemma removeChildrenWhere (test : Tree NodeId → Bool) : Runs (Keeping (Stands φ q)) Unit
    (edit φ.node fun n d => d.removeChildrenWhere? n test) := by
  rintro s ⟨t, h, hq⟩
  obtain ⟨s', e, h'⟩ := h.removeChildrenWhere test
  obtain ⟨tag, attrs, hidden, children, rfl⟩ := h.exists_element
  rw [e]
  exact ⟨_, h', fun u hu => hq u (List.mem_filter.1 hu).1⟩

/-- Forgetting the templates below an element leaves it in its surroundings. -/
lemma forgetBelow : Runs (Keeping (Stands φ q)) Unit (Walk.forgetBelow φ.node) := by
  rintro s ⟨t, h, hq⟩
  obtain ⟨s', e, h'⟩ := h.forgetBelow
  rw [e]
  exact ⟨t, h', hq⟩

/-- Clearing an element leaves it in its surroundings. -/
lemma clear : Runs (Keeping (Stands φ q)) Unit (Walk.clear φ.node) :=
  course_stands.closed.bind forgetBelow fun _ => removeChildrenWhere _

/-- Putting a text below an element leaves it in its surroundings. -/
lemma setText (hq : ∀ u : Tree NodeId, u.isElement = false → q u) (content : String) :
    Runs (Keeping (Stands φ q)) Unit (edit φ.node fun n d => d.setText? n content) := by
  rintro s ⟨t, h, -⟩
  obtain ⟨s', planted, e, h', htexts⟩ := h.setText content
  obtain ⟨tag, attrs, hidden, children, rfl⟩ := h.exists_element
  rw [e]
  exact ⟨_, h', fun u hu => hq u (htexts u hu)⟩

end Stands

/-- Setting the attributes of an element does nothing to what is below it. -/
lemma decorating_stands (hq : ∀ u : Tree NodeId, u.isElement = false → q u) :
    Decorating (Runs (Keeping (Stands φ q))) φ.node where
  toClosedAt := course_stands.closed.element _
  restyle f hf := by
    rintro s ⟨t, h, ht⟩
    obtain ⟨s', e, h'⟩ := h.editNode hf
    rw [e]
    exact ⟨_, h', (hf.children t).symm ▸ ht⟩
  removeText := Stands.removeChildrenWhere _
  fillText content := course_stands.closed.bind Stands.forgetBelow fun _ =>
    Stands.setText hq content

/-- Setting attributes leaves an element in its surroundings, whatever is below it. -/
lemma decorating_plain : Decorating (Runs (Keeping (Plain φ))) φ.node :=
  decorating_stands fun u hu => by
    cases u with
    | element => cases hu
    | text label content => exact Tree.jumpFree_text label content

/-- An element is filled with anything but copies. -/
lemma plainFilling_intact : PlainFilling (Runs (Keeping (Intact φ))) φ.node where
  toDecorating := decorating_stands fun _ _ => trivial
  setText := Stands.setText fun _ _ => trivial
  forgetBelow := Stands.forgetBelow
  clear := Stands.clear
  fillMarkup markup := by
    rintro s ⟨t, h, -⟩
    obtain ⟨d, planted, e, h'⟩ := h.setMarkup markup
    simp only [ContentOperator.fillMarkup, run_get, e]
    cases (Markup.read markup).fault? with
    | none => exact ⟨_, h', fun _ _ => trivial⟩
    | some fault => exact ⟨_, h', fun _ _ => trivial⟩
  appendOption item := by
    unfold ContentOperator.appendOption
    cases item.text? with
    | none => exact course_stands.closed.refuse _
    | some shown =>
      rintro s ⟨t, h, -⟩
      obtain ⟨u, d, d', e, e', -, h'⟩ :=
        h.plantAppend (.element () "option" [("value", shown)] false [.text () shown])
      have hedit : edit φ.node (fun n d => d.append? n u.label) { s with document := d } =
        (.ok (), { s with document := d' }) := run_edit e'
      simp only [run_get, e]
      rw [(run_bind_of_ok (run_modify _ s)).trans hedit]
      exact ⟨_, h', fun _ _ => trivial⟩

/-! ## Templates -/

variable {c : Setting} {scope : Value} {operand : String}

/-- Elements directly below the element are taken out of it, and held for it. -/
lemma stashTemplates_plain (picked : List (Tree NodeId)) (stored : Stored) {t : Tree NodeId}
    (h : StandsIn φ s t)
    (hjump : ∀ u ∈ t.children, u.JumpFree φ.dialect) (hnone : s.stash.find? φ.node = none)
    (hpicked : picked.Sublist t.elements) (hstored : stored.templates = picked.map Tree.label) :
    ∃ s', stashTemplates φ.node stored s = (.ok (), s') ∧ Plain (φ.own stored) s' := by
  obtain ⟨s', left, e, hleft, h'⟩ := h.stashTemplates hjump hnone hpicked hstored
  obtain ⟨tag, attrs, hidden, children, rfl⟩ := h.exists_element
  exact ⟨s', e, _, h', fun u hu => hjump u (hleft.subset hu)⟩

/-- The template of a list is held for the list. -/
lemma leads_itemTemplate : Leads (Plain φ) (itemTemplate φ.node)
    (fun template => Plain (φ.own (.item template))) fun _ => Plain φ := by
  rintro s ⟨t, h, hjump⟩
  cases hfind : s.stash.find? φ.node with
  | some stored =>
    simp only [itemTemplate, run_get, hfind]
    cases stored with
    | item template => exact ⟨t, h.hold (Stash.mem_of_lookup hfind), hjump⟩
    | entry key value => exact ⟨t, h, hjump⟩
  | none =>
    simp only [itemTemplate, run_get, hfind, run_bind_of_ok (run_node h.find?)]
    cases helements : t.elements with
    | nil => exact ⟨t, h, hjump⟩
    | cons template later =>
      obtain ⟨s', e, h'⟩ := stashTemplates_plain [template]
        (.item template.label) h hjump hfind (by simp [helements]) rfl
      dsimp only
      rw [run_bind_of_ok e]
      exact h'

/-- The templates of a map are held for the map. -/
lemma leads_entryTemplates : Leads (Plain φ) (entryTemplates φ.node)
    (fun templates => Plain (φ.own (.entry templates.1 templates.2))) fun _ => Plain φ := by
  rintro s ⟨t, h, hjump⟩
  cases hfind : s.stash.find? φ.node with
  | some stored =>
    simp only [entryTemplates, run_get, hfind]
    cases stored with
    | item template => exact ⟨t, h, hjump⟩
    | entry key value => exact ⟨t, h.hold (Stash.mem_of_lookup hfind), hjump⟩
  | none =>
    simp only [entryTemplates, run_get, hfind, run_bind_of_ok (run_node h.find?)]
    cases helements : t.elements with
    | nil => exact ⟨t, h, hjump⟩
    | cons key later =>
      cases later with
      | nil => exact ⟨t, h, hjump⟩
      | cons value later =>
        obtain ⟨s', e, h'⟩ := stashTemplates_plain [key, value]
          (.entry key.label value.label) h hjump hfind (by simp [helements]) rfl
        dsimp only
        rw [run_bind_of_ok e]
        exact h'

/-- An element is cleared for copies. -/
lemma stocking_plain : Stocking (Runs (Keeping (Plain φ))) φ.node where
  toClosedAt := course_stands.closed.element _
  clear := Stands.clear
  itemTemplate _ hs := (leads_itemTemplate.mono (fun _ h => h) (fun _ _ h => h.release)
    fun _ _ h => h).state hs
  entryTemplates _ hs := (leads_entryTemplates.mono (fun _ h => h) (fun _ _ h => h.release)
    fun _ _ h => h).state hs

/-- The templates of all servings are held for the element. -/
def Supplied (φ : Surroundings) (servings : List (List (NodeId × Value))) (s : State) : Prop :=
  ∃ stored : Stored, Plain (φ.own stored) s ∧
    ∀ serving ∈ servings, ∀ copy ∈ serving, copy.1 ∈ stored.templates

/-- What a list or a map is filled with is copied from templates that are held for it. -/
lemma leads_servings {operator : ContentOperator} {ordered : Bool}
    (h : operator.ordered? = some ordered) :
    Leads (Plain φ) (operator.servings c φ.node scope operand) (Supplied φ) fun _ => Plain φ := by
  have hkeep {α : Type} {stored : Stored} {w : Walk α}
      (hw : Runs (Keeping (Plain (φ.own stored))) α w) :
      Leads (Plain (φ.own stored)) w (fun _ => Plain (φ.own stored)) fun _ => Plain φ :=
    (Leads.of_keeping hw).mono (fun _ h => h) (fun _ _ h => h) fun _ _ h => h.release
  cases operator with
  | list _ =>
    refine leads_itemTemplate.bind fun template => ?_
    refine (hkeep Stands.clear).bind fun _ => ?_
    refine (hkeep (course_stands.closed.check _)).bind fun items s hs => ?_
    refine ⟨_, hs, fun serving hserving => ?_⟩
    obtain ⟨item, -, rfl⟩ := List.mem_map.1 hserving
    simp [Stored.templates]
  | map _ =>
    refine leads_entryTemplates.bind fun templates => ?_
    obtain ⟨key, value⟩ := templates
    refine (hkeep Stands.clear).bind fun _ => ?_
    refine (hkeep (course_stands.closed.check _)).bind fun entries s hs => ?_
    refine ⟨_, hs, fun serving hserving => ?_⟩
    obtain ⟨entry, -, rfl⟩ := List.mem_map.1 hserving
    simp [Stored.templates]
  | _ => cases h

end TreeTemplate.Walk
