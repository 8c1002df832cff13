import TreeTemplate.Proofs.Documents.Calls
import TreeTemplate.Proofs.Injection.Restore

/-!
# Resetting a document

Resetting a document takes it back to the same state whatever was injected into it before, with
whatever success.

Main statements:

* `reset_undoes_calls` — a document that is reset after any calls.
-/

namespace TreeTemplate

open Stocked (ofTree)

variable {e : Engine} {d : Document}

namespace Tree

variable {ι κ : Type}

/-- The elements below a tree with other labels are those below it, with other labels. -/
lemma elements_relabel (f : ι → κ) (t : Tree ι) :
    (t.relabel f).elements = t.elements.map (relabel f) := by
  cases t with
  | text => rfl
  | element label tag attrs hidden children =>
    simp only [elements, relabel, Tree.children, Stocked.relabelAll_eq_map, List.filter_map]
    congr 1
    exact List.filter_congr fun t _ => isElement_relabel f t

/-- A tree can be brought back if each of its elements can. -/
lemma resettable_of_nodes {dialect : Dialect} (u : Tree Unit)
    (h : ∀ t ∈ u.nodes, t.isElement = true → t.head.JumpFree dialect ∧ t.head.Unmarked dialect ∧
      t.head.Classed dialect ∧ (t.head.showsValue dialect = true → t.elements = [])) :
    u.Resettable dialect := by
  induction u using Tree.induct with
  | text label content => trivial
  | element label tag attrs hidden children ih =>
    obtain ⟨hjump, hunmarked, hclassed, hshown⟩ := h _ List.mem_cons_self rfl
    refine resettable_element.2
      ⟨⟨hjump, hunmarked, hclassed, fun hshows => ?_⟩, fun child hchild => ?_⟩
    · have hnone : children.filter isElement = [] := hshown hshows
      exact (filter_isElement_ofTrees children).trans (by rw [hnone, List.map_nil])
    · refine ih child hchild fun t ht => h t ?_
      refine List.mem_cons_of_mem _ ?_
      rw [nodesOf_eq_flatMap]
      exact List.mem_flatMap.2 ⟨child, hchild, ht⟩

end Tree

/-- Each element that a document presents is one of its elements. -/
lemma Template.Presents.mem_elements {t : Template} {P : Element Unit} (h : t.Presents d P)
    {u : Tree Unit} (hu : u ∈ Tree.nodesOf (P.children.map Stocked.tree))
    (helement : u.isElement = true) : ∃ t ∈ d.elements, t.bare = u := by
  obtain ⟨Q, rfl, hfind⟩ := h.find?
  have hnodes : Tree.nodesOf (Q.bare.children.map Stocked.tree) =
      (Tree.nodesOf (Q.children.map Stocked.tree)).map Tree.bare := by
    simp only [Element.bare, List.map_map, Function.comp_def, Stocked.tree_bare,
      Tree.nodesOf_eq_flatMap, List.flatMap_map, List.map_flatMap]
    exact List.flatMap_congr fun t _ => Tree.nodes_relabel _ t.tree
  rw [hnodes] at hu
  obtain ⟨t, ht, rfl⟩ := List.mem_map.1 hu
  refine ⟨t, ?_, rfl⟩
  rw [Document.elements, Document.attached, hfind, Element.labelled, Stocked.tree_element]
  exact List.mem_filter.2 ⟨ht, (Tree.isElement_relabel _ t).symm.trans helement⟩

/-- A document that was read can be brought back if each of its elements can. -/
lemma Template.Presents.resettable_of_parse {markup : String} (h : Document.parse markup = .ok d)
    (hjump : ∀ t ∈ d.elements, t.head.JumpFree e.dialect)
    (hunmarked : ∀ t ∈ d.elements, t.head.Unmarked e.dialect)
    (hclassed : ∀ t ∈ d.elements, t.head.Classed e.dialect)
    (hshown : ∀ t ∈ d.elements, t.head.showsValue e.dialect = true → t.elements = []) :
    ∃ trees, (Template.ofRoot Document.root).Presents d (Element.ofTrees trees) ∧
      (Element.ofTrees trees).whole.TemplatesIntact e.dialect ∧
      Tree.Resettable e.dialect (.element () "#document" [] false trees) := by
  obtain ⟨trees, -, hpresents⟩ := Template.Presents.of_parse h
  have hresettable : Tree.Resettable e.dialect (.element () "#document" [] false trees) := by
    refine Tree.resettable_of_nodes _ fun u hu helement => ?_
    rcases List.mem_cons.1 hu with rfl | hu
    · simp [Tree.head, Tree.attrs, Head.JumpFree, Head.Unmarked, Head.Classed, Head.setters,
        Head.showsValue]
    · have hmem : u ∈ Tree.nodesOf ((Element.ofTrees trees).children.map Stocked.tree) := by
        rwa [Element.ofTrees, Stocked.map_tree_ofTree]
      obtain ⟨t, ht, rfl⟩ := hpresents.mem_elements hmem helement
      have hhead : t.bare.head = t.head := Tree.head_relabel _ t
      have helements : t.bare.elements = t.elements.map Tree.bare := Tree.elements_relabel _ t
      rw [hhead, helements]
      exact ⟨hjump t ht, hunmarked t ht, hclassed t ht, fun hshows => by
        rw [hshown t ht hshows, List.map_nil]⟩
  refine ⟨trees, hpresents, ?_, hresettable⟩
  rw [Element.whole_ofTrees]
  exact Stocked.templatesIntact_ofTree
    (Stocked.AllBut.mono (fun _ hP => ⟨hP.jumpFree, hP.unmarked⟩) hresettable)

/-- Where a document that was just read can be reset, it can be reset after any calls, each of them
successful or not. That leaves the same markup and the same elements hidden, and whatever is
injected next is answered in the same way and leaves the same markup. -/
theorem reset_undoes_calls {markup : String} (h : Document.parse markup = .ok d)
    (hjump : ∀ t ∈ d.elements, t.head.JumpFree e.dialect)
    (hunmarked : ∀ t ∈ d.elements, t.head.Unmarked e.dialect)
    (hclassed : ∀ t ∈ d.elements, t.head.Classed e.dialect)
    (hshown : ∀ t ∈ d.elements, t.head.showsValue e.dialect = true → t.elements = [])
    {noted : List Fault} (hok : ((Template.ofRoot Document.root).reset e d).result = .ok noted)
    {calls : List Call} (hcalls : ∀ call ∈ calls, call.isWhole) :
    let fresh := (Template.ofRoot Document.root).reset e d
    let left := (Template.ofRoot Document.root).afterCalls e d calls
    let again := left.1.reset e left.2
    again.result = .ok noted ∧ again.document.markup = fresh.document.markup ∧
      again.document.elements.map Tree.isHidden = fresh.document.elements.map Tree.isHidden ∧
      ∀ m, (again.template.inject e again.document m).result =
          (fresh.template.inject e fresh.document m).result ∧
        (again.template.inject e again.document m).document.markup =
          (fresh.template.inject e fresh.document m).document.markup := by
  intro fresh left again
  obtain ⟨trees, hpresents, hintact, hresettable⟩ :=
    Template.Presents.resettable_of_parse h hjump hunmarked hclassed hshown
  let root : Tree Unit := .element () "#document" [] false trees
  have hafter : AfterWalks e.dialect true root (Element.ofTrees trees).whole := by
    rw [Element.whole_ofTrees]
    exact afterWalks_ofTree root
  obtain ⟨hresult, hfresh, hintact'⟩ := hpresents.reset_templatesIntact hintact
  have hreset : (Local.reset e.dialect e.maxDepth 0 (Element.ofTrees trees)).result = .ok () := by
    rw [hresult] at hok
    cases hrun : (Local.reset e.dialect e.maxDepth 0 (Element.ofTrees trees)).result with
    | error f =>
      rw [hrun] at hok
      cases hok
    | ok _ => rfl
  obtain ⟨S, hS⟩ := Local.reset_of_afterWalks e.maxDepth 0 hresettable hafter hreset
  -- whatever the calls leave has become of the document that was read
  obtain ⟨P, hleft, hintactP, hafterP⟩ := hpresents.afterCalls
    (R := fun P => P.whole.TemplatesIntact e.dialect ∧ AfterWalks e.dialect true root P.whole)
      ⟨hintact, hafter⟩
    (fun P hP => hP.1)
    (fun m P hP => ⟨Local.keeps_templatesIntact_inject (c := ⟨e, m⟩) e.maxDepth 0 [] m false P hP.1,
      Local.keeps_afterWalks_inject (c := ⟨e, m⟩) e.maxDepth 0 m hresettable P hP.2⟩)
    (fun P hP => ⟨Local.keeps_templatesIntact_reset e.maxDepth 0 P hP.1,
      Local.keeps_afterWalks_reset e.maxDepth 0 hresettable P hP.2⟩) hcalls
  obtain ⟨hresult', hagain, -⟩ := hleft.reset_templatesIntact hintactP
  rw [hS _ hafter] at hresult hfresh hintact'
  rw [hS _ hafterP] at hresult' hagain
  refine ⟨(hresult'.trans hresult.symm).trans hok, hagain.markup.trans hfresh.markup.symm,
    hagain.hidden.trans hfresh.hidden.symm, fun m => ?_⟩
  cases hm : m.isNull with
  | true =>
    simp only [Template.inject, hm, if_true, Template.unchanged, true_and]
    exact hagain.markup.trans hfresh.markup.symm
  | false =>
    obtain ⟨hinject, hnext, -⟩ := hagain.inject_templatesIntact hintact' hm
    obtain ⟨hinject', hnext', -⟩ := hfresh.inject_templatesIntact hintact' hm
    exact ⟨hinject.trans hinject'.symm, hnext.markup.trans hnext'.markup.symm⟩

set_option maxRecDepth 2000 in
/-- A model that is refused for its title, and one that sets all there is to set: after the two the
document is reset to what it was. -/
theorem reset_undoes_calls_refused : ∃ d noted,
    Document.parse
      "<p class=\"a\" data-css-class=\"on:k\" data-title=\"t\">x<b data-text=\"v\">y</b></p><ul data-list=\"xs\"><li data-text=\".\"></li></ul>" = .ok d ∧
    let calls : List Call := [.inject (.map [("t", .list [])]),
      .inject (.map [("on", .bool true), ("t", .string "T"), ("v", .string "V"),
        ("xs", .list [.string "1", .string "2"])])]
    let fresh := (Template.ofRoot Document.root).reset {} d
    let left := (Template.ofRoot Document.root).afterCalls {} d calls
    let again := left.1.reset {} left.2
    fresh.result = .ok noted ∧
      left.2.markup =
        "<p class=\"a k\" data-css-class=\"on:k\" data-title=\"t\" title=\"T\">x<b data-text=\"v\">V</b></p><ul data-list=\"xs\"><li data-text=\".\">1</li><li data-text=\".\">2</li></ul>" ∧
      again.result = .ok noted ∧ again.document.markup = fresh.document.markup := by
  let calls : List Call := [.inject (.map [("t", .list [])]),
    .inject (.map [("on", .bool true), ("t", .string "T"), ("v", .string "V"),
      ("xs", .list [.string "1", .string "2"])])]
  obtain ⟨d, hparse, helements, hmarkup, hok⟩ := exists_ok_of_check
    (Document.parse
      "<p class=\"a\" data-css-class=\"on:k\" data-title=\"t\">x<b data-text=\"v\">y</b></p><ul data-list=\"xs\"><li data-text=\".\"></li></ul>")
    (p := fun d =>
      (∀ t ∈ d.elements, t.head.JumpFree Dialect.standard ∧ t.head.Unmarked Dialect.standard ∧
        t.head.Classed Dialect.standard ∧
          (t.head.showsValue Dialect.standard = true → t.elements.length = 0)) ∧
      ((Template.ofRoot Document.root).afterCalls {} d calls).2.markup =
        "<p class=\"a k\" data-css-class=\"on:k\" data-title=\"t\" title=\"T\">x<b data-text=\"v\">V</b></p><ul data-list=\"xs\"><li data-text=\".\">1</li><li data-text=\".\">2</li></ul>" ∧
      ((Template.ofRoot Document.root).reset {} d).result.toOption.isSome = true)
    (by decide +kernel)
  cases hresult : ((Template.ofRoot Document.root).reset {} d).result with
  | error f =>
    rw [hresult] at hok
    cases hok
  | ok noted =>
    obtain ⟨hagain, hsame, -⟩ := reset_undoes_calls (e := {}) hparse
      (fun t ht => (helements t ht).1) (fun t ht => (helements t ht).2.1)
      (fun t ht => (helements t ht).2.2.1)
      (fun t ht hshows => List.length_eq_zero_iff.1 ((helements t ht).2.2.2 hshows)) hresult
      (show ∀ call ∈ calls, call.isWhole by decide)
    exact ⟨d, noted, hparse, hresult, hmarkup, hagain, hsame⟩

end TreeTemplate
