import TreeTemplate.Proofs.Attributes.Declared
import TreeTemplate.Proofs.Attributes.Strip
import TreeTemplate.Proofs.Forest.Names

/-!
# Undoing the operators of an element

Undoing the operators of an element removes every attribute and every class that any of their runs
may have written. What it leaves is the same whatever was injected before.

Main statements:

* `Covers.within` — an operator writes nothing but what undoing it removes;
* `Head.AfterOperators.touched` — the element before and after a touch of one of its operators.
-/

namespace TreeTemplate

open AttributeOperator

variable {d : Dialect} {h head : Head} {t : Tree Unit} {operand : String}
  {operator : AttributeOperator} {touch : Touch}

namespace AttributeOperator

/-- Undoing an operator only removes. -/
lemma undoes_undoScript (operator : AttributeOperator) :
    ∀ touch ∈ operator.undoScript t operand, touch.Undoes := by
  cases operator with
  | attributes =>
    simp only [undoScript]
    split
    · exact List.forall_mem_singleton.2 trivial
    · exact List.forall_mem_map.2 fun _ _ => rfl
  | classes =>
    simp only [undoScript]
    split
    · exact List.forall_mem_singleton.2 trivial
    · intro touch ht
      obtain ⟨clause, -, ht⟩ := List.mem_flatMap.1 ht
      unfold undoClause at ht
      split at ht
      · rw [List.mem_singleton.1 ht]
        rfl
      · cases ht
  | named which => exact List.forall_mem_singleton.2 rfl
  | value =>
    simp only [undoScript, removeValueScript]
    split
    · exact List.forall_mem_singleton.2 rfl
    · exact List.forall_mem_singleton.2 trivial

/-- What an operator covers is removed when the operator is undone, as long as its clauses for
classes have conditions. -/
lemma Covers.within (hcovers : operator.Covers t operand touch)
    (hclasses : operator = .classes → Conditional operand ∧
      ∀ name ∈ classNames operand, IsClass name) :
    touch.Within ((operator.undoScript t operand).filterMap Touch.putName?)
      ((operator.undoScript t operand).filterMap Touch.toggleName?) := by
  cases touch with
  | put name value? =>
    obtain ⟨hne, hname⟩ := hcovers
    suffices hput : Touch.put name none ∈ operator.undoScript t operand from
      List.mem_filterMap.2 ⟨_, hput, rfl⟩
    cases operator with
    | attributes =>
      simp only [written, clauseNames] at hname
      simp only [undoScript]
      cases hparse : Clause.parse operand with
      | error cause =>
        rw [hparse] at hname
        cases hname
      | ok clauses =>
        rw [hparse] at hname
        obtain ⟨clause, hm, rfl⟩ := List.mem_map.1 hname
        exact List.mem_map_of_mem hm
    | classes => exact absurd rfl hne
    | named which =>
      rw [List.mem_singleton.1 hname]
      exact List.mem_singleton.2 rfl
    | value =>
      simp only [written] at hname
      simp only [undoScript, removeValueScript]
      split at hname
      · rename_i htag
        rw [List.mem_singleton.1 hname, if_pos htag]
        exact List.mem_singleton.2 rfl
      · cases hname
  | toggle name on =>
    obtain ⟨rfl, hname⟩ := hcovers
    obtain ⟨hconditional, hclass⟩ := hclasses rfl
    have hmem := hname hconditional
    refine ⟨?_, hclass name hmem⟩
    suffices htoggle : Touch.toggle name false ∈ undoScript t operand .classes from
      List.mem_filterMap.2 ⟨_, htoggle, rfl⟩
    simp only [classNames] at hmem
    simp only [undoScript]
    cases hparse : Clause.parse operand with
    | error cause =>
      rw [hparse] at hmem
      cases hmem
    | ok clauses =>
      rw [hparse] at hmem
      obtain ⟨clause, hm, hvalue⟩ := List.mem_filterMap.1 hmem
      refine List.mem_flatMap.2 ⟨clause, hm, ?_⟩
      simp [undoClause, hvalue]
  | _ => trivial

end AttributeOperator

/-- A touch writes no attribute twice. -/
lemma Touch.nodup_onAttrs (touch : Touch) {attrs : List (String × String)}
    (h : (attrs.map Prod.fst).Nodup) : ((touch.onAttrs attrs).map Prod.fst).Nodup := by
  have hfilter (name : String) : ((attrs.filter (·.1 ≠ name)).map Prod.fst).Nodup :=
    h.sublist (List.filter_sublist.map _)
  cases touch with
  | put name value? =>
    cases value? with
    | none => exact hfilter name
    | some value => exact Tree.nodup_replaceAttr h name value
  | toggle name on =>
    cases on with
    | true =>
      simp only [Touch.onAttrs, Tree.addClassIn]
      split
      · exact h
      · exact Tree.nodup_replaceAttr h _ _
    | false =>
      simp only [Touch.onAttrs, Tree.removeClassIn]
      split
      · exact h
      · split
        · exact hfilter "class"
        · exact Tree.nodup_replaceAttr h _ _
  | _ => exact h

/-- A touch that writes some attributes and classes writes some of more. -/
lemma Touch.Within.mono {names names' classes classes' : List String}
    (hwithin : touch.Within names classes) (hnames : names ⊆ names')
    (hclasses : classes ⊆ classes') : touch.Within names' classes' := by
  cases touch with
  | put name value? => exact hnames hwithin
  | toggle name on => exact ⟨hclasses hwithin.1, hwithin.2⟩
  | _ => trivial

namespace Head

/-- What undoing the operators of an element does to it. -/
def undoing (d : Dialect) (h : Head) : List Touch :=
  (h.setters d).flatMap fun op => op.1.undoScript h.shell op.2

/-- An element was like another one before its operators ran. -/
structure AfterOperators (d : Dialect) (h head : Head) : Prop where
  agrees : h.Agrees d head
  attrs : attrsAfter (h.undoing d) head.attrs = attrsAfter (h.undoing d) h.attrs
  hidden : ∀ ds, Directives.ofAttrs d h.shell.describe h.attrs = .ok ds →
    ds.conditional? = none → head.hidden = h.hidden
  nodup : (h.attrs.map Prod.fst).Nodup → (head.attrs.map Prod.fst).Nodup

/-- Undoing the operators of an element removes things. -/
lemma undoes_undoing (d : Dialect) (h : Head) : ∀ touch ∈ h.undoing d, touch.Undoes := by
  intro touch ht
  obtain ⟨op, -, ht⟩ := List.mem_flatMap.1 ht
  exact undoes_undoScript op.1 touch ht

/-- A touch of an operator of an element writes nothing but what undoing its operators removes. -/
lemma Classed.within (hclassed : h.Classed d) {op : AttributeOperator × String}
    (hop : op ∈ h.setters d) (hcovers : op.1.Covers h.shell op.2 touch) :
    touch.Within ((h.undoing d).filterMap Touch.putName?)
      ((h.undoing d).filterMap Touch.toggleName?) := by
  have hsub : op.1.undoScript h.shell op.2 ⊆ h.undoing d :=
    fun touch ht => List.mem_flatMap.2 ⟨op, hop, ht⟩
  refine (hcovers.within fun hclasses => ?_).mono (List.filterMap_subset _ hsub)
    (List.filterMap_subset _ hsub)
  obtain ⟨hconditional, hblank⟩ := hclassed op hop hclasses
  exact ⟨hconditional, fun name hname => ⟨ne_empty_of_mem_classNames hname, hblank name hname⟩⟩

/-- An element is like itself before any operator ran. -/
lemma AfterOperators.refl (d : Dialect) (h : Head) : h.AfterOperators d h :=
  ⟨.refl h, rfl, fun _ _ _ => rfl, id⟩

/-- A touch of an operator of an element leaves what undoing its operators leaves. -/
lemma AfterOperators.touched (hafter : h.AfterOperators d head) (hclassed : h.Classed d)
    (hunmarked : h.Unmarked d)
    {op : AttributeOperator × String} (hop : op ∈ h.setters d)
    (hcovers : op.1.Covers h.shell op.2 touch) :
    h.AfterOperators d ⟨head.tag, touch.onAttrs head.attrs, head.hidden⟩ := by
  refine ⟨hafter.agrees.trans ⟨rfl, ?_⟩, ?_, hafter.hidden,
    fun hnodup => touch.nodup_onAttrs (hafter.nodup hnodup)⟩
  · exact touch.filter_onAttrs d.reserves
      (fun name hname => hunmarked.unreserved op hop name (hcovers.name_mem hname)) head.attrs
  · refine Eq.trans ?_ hafter.attrs
    exact attrsAfter_undoing (h.undoes_undoing d)
      (List.forall_mem_singleton.2 (hclassed.within hop hcovers)) head.attrs

end Head

end TreeTemplate
