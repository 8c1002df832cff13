import TreeTemplate.Proofs.Attributes.Declared
import TreeTemplate.Proofs.Content.Cleared
import TreeTemplate.Proofs.Courses.Alike
import TreeTemplate.Proofs.Documents.Items

/-!
# Classes that are toggled

Where every clause of an operand for classes has a condition and the classes are different ones, the
operator gives an element the classes whose conditions hold and takes the others away, and run once
more in the same scope it changes nothing.

Main statements:

* `AttributeOperator.run_toggles` — what the clauses make of the attributes of an element;
* `AttributeOperator.run_toggles_settled` — clauses whose work is done;
* `classes_toggle` — the operator gives and takes the classes, once and for all.
-/

namespace TreeTemplate

open TreeTemplate.Tree

/-! ## Clauses -/

/-- A clause asks for a class, or for its absence. -/
structure Clause.Toggles (c : Setting) (scope : Value) (operand : String) (clause : Clause)
    (name : String) (on : Bool) : Prop where
  value : clause.value? = some name
  holds : ∃ condition lacking,
    Condition.parseAt operand clause.start clause.name.toList = .ok condition ∧
      condition.holds c.model scope = .ok (on, lacking)

namespace AttributeOperator

variable {c : Setting} {n : NodeId} {scope : Value} {operand name : String} {clause : Clause}
  {clauses : List Clause} {on : Bool} {s s' : Walk.State} {t : Tree NodeId}

/-- A class is added to an element or taken away. -/
lemma run_toggle (name : String) (on : Bool) (hn : s.document.find? n = some t)
    (ht : t.isElement = true) : ∃ s', toggle n name on s = (.ok (), s') ∧
      s'.document.find? n = some (t.mapAttrs (Touch.toggle name on).onAttrs) ∧
      ((Touch.toggle name on).Settled t.attrs → s'.document = s.document) := by
  have hlabel : ∀ u : Tree NodeId,
      ((if on then Tree.addClass name else Tree.removeClass name) u).label = u.label := by
    intro u
    cases on with
    | true => exact (u.restyles_addClass name).label
    | false => exact (u.restyles_removeClass name).label
  have happly : (if on then Tree.addClass name else Tree.removeClass name) t =
      t.mapAttrs (Touch.toggle name on).onAttrs := by
    cases t with
    | text => cases ht
    | element =>
      cases on with
      | true => exact addClass_element
      | false => exact removeClass_element
  obtain ⟨d, hupdate, hfound, hsame⟩ := Document.exists_update? hn (hlabel t)
  rw [happly] at hfound hsame
  refine ⟨{ s with document := d }, Walk.run_edit (g := fun n d => d.update? n _) hupdate, hfound,
    fun hsettled => hsame ?_⟩
  cases t with
  | text => cases ht
  | element m tag attrs hidden children =>
    have hattrs : (Touch.toggle name on).onAttrs attrs = attrs := hsettled.onAttrs_eq
    rw [mapAttrs, hattrs]

/-- A clause with a condition toggles its class. -/
lemma run_classClause (h : clause.Toggles c scope operand name on)
    (hn : s.document.find? n = some t) (ht : t.isElement = true) :
    ∃ s', classClause c n scope operand clause s = (.ok (), s') ∧
      s'.document.find? n = some (t.mapAttrs (Touch.toggle name on).onAttrs) ∧
      ((Touch.toggle name on).Settled t.attrs → s'.document = s.document) := by
  obtain ⟨hvalue, condition, lacking, hparse, hholds⟩ := h
  let s₁ : Walk.State := { s with
    diagnostics := s.diagnostics ++
      lacking.map (.ofSite ⟨.attr .classes, t.describe, operand⟩) }
  have hrecover : lacking.forM (Walk.recover n (.attr .classes) operand) s = (.ok (), s₁) :=
    Walk.Alike.run_forM_recover hn (Condition.lacking_class hholds)
  obtain ⟨s', htoggle, hfound⟩ := run_toggle name on (s := s₁) hn ht
  refine ⟨s', ?_, hfound⟩
  simp only [classClause, hvalue, toggleClause, hparse, Walk.checkOperand_ok_bind, hholds,
    Walk.check_ok_bind]
  rw [Walk.run_bind_of_ok hrecover, htoggle]

/-- Where a clause with a condition succeeds, its condition can be read. -/
lemma toggles_of_run (hvalue : clause.value? = some name)
    (h : classClause c n scope operand clause s = (.ok (), s')) :
    ∃ on, clause.Toggles c scope operand name on := by
  simp only [classClause, hvalue, toggleClause] at h
  obtain ⟨condition, _, hcondition, h⟩ := Walk.exists_of_run_bind h
  obtain ⟨answer, _, hanswer, -⟩ := Walk.exists_of_run_bind h
  cases hparse : Condition.parseAt operand clause.start clause.name.toList with
  | error error =>
    rw [hparse] at hcondition
    cases hcondition
  | ok found =>
    rw [hparse] at hcondition
    cases hcondition
    cases hholds : condition.holds c.model scope with
    | error cause =>
      rw [hholds] at hanswer
      cases hanswer
    | ok answer => exact ⟨answer.1, hvalue, condition, answer.2, hparse, hholds⟩

/-! ## All clauses of an operand -/

/-- The clauses of an operand ask for some classes in turn, or for their absence. -/
def Toggling (c : Setting) (scope : Value) (operand : String) (clauses : List Clause)
    (toggles : List (String × Bool)) : Prop :=
  List.Forall₂ (fun clause toggle => clause.Toggles c scope operand toggle.1 toggle.2) clauses
    toggles

/-- What is done to an element for the classes that are asked for. -/
def touchesOf (toggles : List (String × Bool)) : List Touch :=
  toggles.map fun toggle => .toggle toggle.1 toggle.2

variable {toggles : List (String × Bool)}

/-- The clauses of an operand toggle their classes one after another. -/
theorem run_toggles (h : Toggling c scope operand clauses toggles)
    (hn : s.document.find? n = some t) (ht : t.isElement = true) :
    ∃ s', clauses.forM (classClause c n scope operand) s = (.ok (), s') ∧
      s'.document.find? n = some (t.mapAttrs (attrsAfter (touchesOf toggles))) := by
  induction h generalizing s t with
  | nil => exact ⟨s, rfl, by cases t <;> exact hn⟩
  | cons hclause _ ih =>
    obtain ⟨s₁, hfirst, hfound, -⟩ := run_classClause hclause hn ht
    -- the next clause finds the attributes that this one has left
    obtain ⟨s₂, hlater, hfound₂⟩ := ih hfound (by cases t <;> first | rfl | exact ht)
    refine ⟨s₂, (Walk.run_forM_cons_of_ok hfirst).trans hlater, hfound₂.trans ?_⟩
    cases t <;> rfl

/-- Clauses whose work is done leave the document as it is. -/
theorem run_toggles_settled (h : Toggling c scope operand clauses toggles)
    (hn : s.document.find? n = some t) (ht : t.isElement = true)
    (hsettled : ∀ touch ∈ touchesOf toggles, touch.Settled t.attrs) :
    ∃ s', clauses.forM (classClause c n scope operand) s = (.ok (), s') ∧
      s'.document = s.document := by
  induction h generalizing s with
  | nil => exact ⟨s, rfl, rfl⟩
  | cons hclause _ ih =>
    obtain ⟨hfirst, hrest⟩ := List.forall_mem_cons.1 hsettled
    obtain ⟨s₁, hrun, -, hsame⟩ := run_classClause hclause hn ht
    obtain ⟨s₂, hlater, hsame₂⟩ := ih ((hsame hfirst).symm ▸ hn) hrest
    exact ⟨s₂, (Walk.run_forM_cons_of_ok hrun).trans hlater, hsame₂.trans (hsame hfirst)⟩

/-- Where clauses with conditions succeed, they ask for classes. -/
lemma exists_toggling (hvalues : ∀ clause ∈ clauses, clause.value?.isSome)
    (h : clauses.forM (classClause c n scope operand) s = (.ok (), s')) :
    ∃ toggles, Toggling c scope operand clauses toggles := by
  induction clauses generalizing s with
  | nil => exact ⟨[], .nil⟩
  | cons clause clauses ih =>
    obtain ⟨s₁, hfirst, hlater⟩ := Walk.exists_of_run_forM_cons h
    obtain ⟨hvalue, hrest⟩ := List.forall_mem_cons.1 hvalues
    obtain ⟨name, hname⟩ := Option.isSome_iff_exists.1 hvalue
    obtain ⟨on, htoggles⟩ := toggles_of_run hname hfirst
    obtain ⟨toggles, htoggling⟩ := ih hrest hlater
    exact ⟨(name, on) :: toggles, .cons htoggles htoggling⟩

/-- The clauses of an operand tell the classes that are added and removed. -/
lemma Toggling.names (h : Toggling c scope operand clauses toggles) :
    clauses.filterMap (·.value?) = toggles.map Prod.fst := by
  induction h with
  | nil => rfl
  | cons hclause _ ih =>
    rw [List.filterMap_cons, hclause.value, ih]
    rfl

/-- Each clause of an operand adds or removes one of the classes. -/
lemma Toggling.exists_of_mem (h : Toggling c scope operand clauses toggles)
    (hm : clause ∈ clauses) :
    ∃ toggle ∈ toggles, clause.Toggles c scope operand toggle.1 toggle.2 := by
  induction h with
  | nil => cases hm
  | cons hclause _ ih =>
    rcases List.mem_cons.1 hm with rfl | hm
    · exact ⟨_, List.mem_cons_self, hclause⟩
    · obtain ⟨toggle, htoggle, hlater⟩ := ih hm
      exact ⟨toggle, List.mem_cons_of_mem _ htoggle, hlater⟩

/-- Different classes are toggled without a look at one another. -/
lemma settled_touchesOf (hnodup : (toggles.map Prod.fst).Nodup)
    (hclass : ∀ name ∈ toggles.map Prod.fst, IsClass name) (attrs : List (String × String)) :
    ∀ touch ∈ touchesOf toggles, touch.Settled (attrsAfter (touchesOf toggles) attrs) := by
  refine settled_attrsAfter (List.forall_mem_map.2 fun toggle htoggle => ?_) ?_ attrs
  · exact hclass toggle.1 (List.mem_map_of_mem htoggle)
  · have hapart : toggles.Pairwise fun a b => a.1 ≠ b.1 := List.pairwise_map.1 hnodup
    exact List.pairwise_map.2 hapart

end AttributeOperator

/-- A text without white space that is not empty is the only class that it names. -/
lemma IsClass.classesOf_eq {name : String} (h : IsClass name) : classesOf name = [name] := by
  have hjoin := classesOf_join (show ∀ other ∈ [name], IsClass other by simpa using h)
  simpa [joinClasses] using hjoin

open AttributeOperator in
/-- Where every clause of an operand has a condition, and the classes behind the conditions are
different ones that hold no white space, the operator for classes toggles them: if it succeeds, each
class is there just when its condition holds. Run once more in the same scope it succeeds and
changes nothing. -/
theorem classes_toggle {c : Setting} {n : NodeId} {scope : Value} {operand : String}
    {clauses : List Clause} {s s' : Walk.State} {t : Tree NodeId}
    (hparse : Clause.parse operand = .ok clauses)
    (hvalues : ∀ clause ∈ clauses, clause.value?.isSome)
    (hdistinct : (clauses.filterMap (·.value?)).Nodup)
    (hblank : ∀ name ∈ clauses.filterMap (·.value?), ∀ ch ∈ name.toList, Text.isBlank ch = false)
    (hn : s.document.find? n = some t) (ht : t.isElement = true)
    (hrun : AttributeOperator.classes.run c n scope operand s = (.ok (), s')) :
    ∃ t', s'.document.find? n = some t' ∧
      (∃ s'', AttributeOperator.classes.run c n scope operand s' = (.ok (), s'') ∧
        s''.document = s'.document) ∧
      ∀ clause ∈ clauses, ∃ name on, clause.Toggles c scope operand name on ∧
        ∀ word ∈ classesOf name, word ∈ t'.classes ↔ on = true := by
  have hforM : AttributeOperator.classes.run c n scope operand =
      clauses.forM (classClause c n scope operand) := by
    rw [AttributeOperator.run, hparse, Walk.check_ok_bind]
  rw [hforM] at hrun ⊢
  obtain ⟨toggles, htoggling⟩ := exists_toggling hvalues hrun
  obtain ⟨s₁, hrun₁, hfound⟩ := run_toggles htoggling hn ht
  obtain rfl : s₁ = s' := by
    rw [hrun] at hrun₁
    cases hrun₁
    rfl
  have hclass : ∀ name ∈ toggles.map Prod.fst, IsClass name := by
    intro name hname
    rw [← htoggling.names] at hname
    have hmem : name ∈ classNames operand := by
      rw [classNames, hparse]
      exact hname
    exact ⟨ne_empty_of_mem_classNames hmem, hblank name hname⟩
  -- the first run leaves the work of all clauses done, which is what the second run needs
  have hsettled := settled_touchesOf (htoggling.names ▸ hdistinct) hclass t.attrs
  cases t with
  | text => cases ht
  | element m tag attrs hidden children =>
    refine ⟨_, hfound, run_toggles_settled htoggling hfound rfl hsettled, fun clause hclause => ?_⟩
    obtain ⟨toggle, htoggle, hasks⟩ := htoggling.exists_of_mem hclause
    refine ⟨toggle.1, toggle.2, hasks, fun word hword => ?_⟩
    rw [(hclass _ (List.mem_map_of_mem htoggle)).classesOf_eq, List.mem_singleton] at hword
    subst hword
    have hdone := hsettled _ (List.mem_map_of_mem htoggle)
    obtain ⟨name, on⟩ := toggle
    cases on with
    | true => exact iff_of_true hdone rfl
    | false => exact iff_of_false hdone.1 (by simp)

/-- Of two classes one is given and the other one taken away. -/
theorem classes_toggle_two :
    let c : Setting := ⟨{}, .map [("on", .bool true)]⟩
    let run := AttributeOperator.classes.run c ⟨1⟩ c.model "on:b; !on:a"
    ∃ d s s' t, Document.parse "<p class=\"a\"/>" = .ok d ∧ run { document := d } = (.ok (), s) ∧
      s.document.find? ⟨1⟩ = some t ∧ ("b" ∈ t.classes ∧ "a" ∉ t.classes) ∧
        run s = (.ok (), s') ∧ s'.document = s.document := by
  intro c run
  obtain ⟨d, hparse, helement, hrun⟩ := exists_ok_of_check (Document.parse "<p class=\"a\"/>")
    (p := fun d => (d.find? ⟨1⟩).map Tree.isElement = some true ∧
      (run { document := d }).1.toOption = some ()) (by decide +kernel)
  obtain ⟨t, hn, ht⟩ := Option.map_eq_some_iff.1 helement
  obtain ⟨t', hfound, ⟨s', hagain, hsame⟩, hclauses⟩ := classes_toggle (c := c)
    (show Clause.parse "on:b; !on:a" = .ok [⟨"on", some "b", 0⟩, ⟨"!on", some "a", 6⟩] from rfl)
    (by decide) (by decide) (by decide) hn ht (eq_ok_of_toOption hrun)
  obtain ⟨⟨b, given, hgiven, hb⟩, ⟨a, taken, htaken, ha⟩, -⟩ := by
    simpa only [List.forall_mem_cons] using hclauses
  obtain ⟨hvalue, _, _, hcondition, hholds⟩ := hgiven
  obtain ⟨hvalue', _, _, hcondition', hholds'⟩ := htaken
  cases hvalue
  cases hvalue'
  cases hcondition
  cases hcondition'
  cases hholds
  cases hholds'
  exact ⟨d, _, s', t', hparse, eq_ok_of_toOption hrun, hfound, ⟨(hb "b" (by decide)).2 rfl,
    fun hm => absurd ((ha "a" (by decide)).1 hm) (by decide)⟩, hagain, hsame⟩

/-- Two classes behind one condition are given again each time. -/
theorem classes_toggle_spaced :
    let c : Setting := ⟨{}, .map [("on", .bool true)]⟩
    let run := AttributeOperator.classes.run c ⟨1⟩ c.model "on:a b"
    Clause.parse "on:a b" = .ok [⟨"on", some "a b", 0⟩] ∧
      ∃ d s s' t t', Document.parse "<p/>" = .ok d ∧
        run { document := d } = (.ok (), s) ∧ run s = (.ok (), s') ∧
          s.document.find? ⟨1⟩ = some t ∧ t.attr? "class" = some "a b" ∧
            s'.document.find? ⟨1⟩ = some t' ∧ t'.attr? "class" = some "a b a b" := by
  intro c run
  obtain ⟨d, hparse, hrun, hrun', helement, hagain⟩ := exists_ok_of_check (Document.parse "<p/>")
    (p := fun d => (run { document := d }).1.toOption = some () ∧
      (run (run { document := d }).2).1.toOption = some () ∧
        ((run { document := d }).2.document.find? ⟨1⟩).bind (Tree.attr? · "class") = some "a b" ∧
          ((run (run { document := d }).2).2.document.find? ⟨1⟩).bind (Tree.attr? · "class") =
            some "a b a b") (by decide +kernel)
  obtain ⟨t, hn, hclass⟩ := Option.bind_eq_some_iff.1 helement
  obtain ⟨t', hn', hclass'⟩ := Option.bind_eq_some_iff.1 hagain
  exact ⟨rfl, d, _, _, t, t', hparse, eq_ok_of_toOption hrun, eq_ok_of_toOption hrun', hn, hclass,
    hn', hclass'⟩

end TreeTemplate
