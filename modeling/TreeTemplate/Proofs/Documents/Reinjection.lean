import TreeTemplate.Proofs.Documents.Elements
import TreeTemplate.Proofs.Injection.Again

/-!
# Injecting a document once more

Injecting a model that succeeded into the same document once more changes nothing that can be seen,
and makes no nodes that stay.

Main statements:

* `inject_idempotent` — the document and the faults of a second injection.
-/

namespace TreeTemplate

variable {e : Engine} {d : Document}

/-- Faults that are equal but for the description of the element are of the same class, with the
same words and the same operator. -/
lemma Fault.agree_of_blur {f g : Fault} (h : f.blur = g.blur) :
    f.faultClass = g.faultClass ∧ f.message = g.message ∧
      f.site?.map Site.operator = g.site?.map Site.operator := by
  obtain ⟨cause, site?⟩ := f
  obtain ⟨cause', site?'⟩ := g
  simp only [blur, Fault.mk.injEq] at h
  obtain ⟨rfl, hsite⟩ := h
  refine ⟨rfl, rfl, ?_⟩
  have hoperator := congrArg (Option.map Site.operator) hsite
  simpa only [Option.map_map, Function.comp_def] using hoperator

/-- Injecting a model that succeeded once more succeeds, and leaves the same markup, the same hidden
elements and the same number of nodes; the faults that it notes agree one by one. -/
theorem inject_idempotent {markup : String} (h : Document.parse markup = .ok d)
    (hjump : ∀ t ∈ d.elements, t.head.JumpFree e.dialect)
    (hunmarked : ∀ t ∈ d.elements, t.head.Unmarked e.dialect)
    (honce : ∀ t ∈ d.elements, t.head.WritesOnce e.dialect)
    (hclassed : ∀ t ∈ d.elements, t.head.Classed e.dialect ∧ t.head.ClassesOnce e.dialect)
    {m : Value} {noted : List Fault}
    (hok : ((Template.ofRoot Document.root).inject e d m).result = .ok noted) :
    let first := (Template.ofRoot Document.root).inject e d m
    let second := first.template.inject e first.document m
    second.document.markup = first.document.markup ∧
      second.document.elements.map Tree.isHidden = first.document.elements.map Tree.isHidden ∧
      second.document.nodeCount = first.document.nodeCount ∧
      ∃ noted', second.result = .ok noted' ∧ List.Forall₂ (fun f g =>
        f.faultClass = g.faultClass ∧ f.message = g.message ∧
          f.site?.map Site.operator = g.site?.map Site.operator) noted noted' := by
  intro first second
  have hm : m.isNull = false := by
    cases m with
    | null => cases hok
    | _ => rfl
  obtain ⟨trees, hpresents, hintact, hsteady⟩ :=
    Template.Presents.templatesIntact_of_parse h hjump hunmarked
    (p := fun head => head.OperatorsApart e.dialect)
    ⟨by simp [Head.Unmarked, Head.setters], by simp [Head.WritesOnce, Head.setters],
      by simp [Head.Classed, Head.setters], by simp [Head.ClassesOnce, Head.setters]⟩
    fun t ht => ⟨hunmarked t ht, honce t ht, (hclassed t ht).1, (hclassed t ht).2⟩
  have hagain : Local.Again (Local.inject ⟨e, m⟩ e.maxDepth 0 [] m false) (Element.ofTrees trees) :=
    Local.inject_again e.maxDepth 0 [] m hsteady
  obtain ⟨hresult, hfirst, hintact'⟩ := hpresents.inject_templatesIntact hintact hm
  rw [hresult] at hok
  -- what the first injection leaves is injected to the same element again
  generalize hact : Local.inject ⟨e, m⟩ e.maxDepth 0 [] m false (Element.ofTrees trees) = left
    at hok hfirst hintact'
  obtain ⟨result, P, notes⟩ := left
  cases result with
  | error f => cases hok
  | ok _ =>
    cases hok
    obtain ⟨notes', hrun, hblur⟩ := hagain (by rw [hact])
    rw [hact] at hrun hblur
    obtain ⟨hresult', hsecond, -⟩ := hfirst.inject_templatesIntact hintact' hm
    rw [hrun] at hresult' hsecond
    refine ⟨hsecond.markup.trans hfirst.markup.symm, hsecond.hidden.trans hfirst.hidden.symm,
      hsecond.nodeCount.trans hfirst.nodeCount.symm, notes', hresult', ?_⟩
    have heq : List.Forall₂ (fun f g => f = g) (notes.map Fault.blur) (notes'.map Fault.blur) := by
      rw [hblur, List.forall₂_same]
      exact fun _ _ => rfl
    have hsame := List.forall₂_map_left_iff.1 (List.forall₂_map_right_iff.1 heq)
    exact hsame.imp fun f g => Fault.agree_of_blur

set_option maxRecDepth 2000 in
/-- A condition with a class, a text that the model lacks, and a list of two items, injected twice:
the document has ten nodes both times. -/
theorem inject_idempotent_list : ∃ d noted,
    Document.parse
      "<p data-if=\"on\" data-css-class=\"on:k\">x<b data-text=\"nope\">y</b></p><ul data-list=\"xs\"><li data-text=\".\"></li></ul>" = .ok d ∧
    let m : Value := .map [("on", .bool true), ("xs", .list [.string "1", .string "2"])]
    let first := (Template.ofRoot Document.root).inject {} d m
    let second := first.template.inject {} first.document m
    first.result = .ok noted ∧ noted.length = 1 ∧ first.document.nodeCount = 10 ∧
      second.document.markup = first.document.markup ∧
      second.document.nodeCount = first.document.nodeCount ∧
      ∃ noted', second.result = .ok noted' ∧ noted'.length = 1 := by
  obtain ⟨d, hparse, ⟨helements, hcount⟩, hok⟩ := exists_ok_of_check
    (Document.parse
      "<p data-if=\"on\" data-css-class=\"on:k\">x<b data-text=\"nope\">y</b></p><ul data-list=\"xs\"><li data-text=\".\"></li></ul>")
    (p := fun d =>
      ((∀ t ∈ d.elements, t.head.JumpFree Dialect.standard ∧ t.head.Unmarked Dialect.standard ∧
        t.head.WritesOnce Dialect.standard ∧ t.head.Classed Dialect.standard ∧
          t.head.ClassesOnce Dialect.standard) ∧
        ((Template.ofRoot Document.root).inject {} d (.map [("on", .bool true),
          ("xs", .list [.string "1", .string "2"])])).document.nodeCount = 10) ∧
      (((Template.ofRoot Document.root).inject {} d (.map [("on", .bool true),
        ("xs", .list [.string "1", .string "2"])])).result.toOption.map List.length) = some 1)
    (by decide +kernel)
  cases hresult : ((Template.ofRoot Document.root).inject {} d (.map [("on", .bool true),
      ("xs", .list [.string "1", .string "2"])])).result with
  | error f =>
    rw [hresult] at hok
    cases hok
  | ok noted =>
    rw [hresult] at hok
    obtain ⟨hmarkup, -, hnodes, noted', hresult', hsame⟩ := inject_idempotent (e := {}) hparse
      (fun t ht => (helements t ht).1) (fun t ht => (helements t ht).2.1)
      (fun t ht => (helements t ht).2.2.1) (fun t ht => (helements t ht).2.2.2) hresult
    have hone : noted.length = 1 := by simpa [Except.toOption] using hok
    exact ⟨d, noted, hparse, hresult, hone, hcount, hmarkup, hnodes, noted', hresult',
      hsame.length_eq.symm.trans hone⟩

end TreeTemplate
