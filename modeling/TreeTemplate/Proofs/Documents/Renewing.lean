import TreeTemplate.Proofs.Documents.Resetting
import TreeTemplate.Proofs.Documents.Writing
import TreeTemplate.Proofs.Injection.Renewed

/-!
# Injecting a document with one model after another

What a document looks like after an injection depends on the model alone, and not on what was
injected into it before, as long as the model reaches no element that sets attributes in a null
scope.

Main statements:

* `inject_renews` — a second model, and the same model injected into a document that was just read.
-/

namespace TreeTemplate

open Stocked (ofTree)

variable {e : Engine} {d : Document}

/-- The nodes at the top of a document are those that it presents. -/
lemma Template.Presents.content {t : Template} {P : Element Unit} (h : t.Presents d P) :
    d.content.map Tree.bare = P.children.map Stocked.tree := by
  obtain ⟨Q, rfl, hfind⟩ := h.find?
  rw [Document.content, hfind, Element.labelled, Stocked.tree_element]
  simp only [Option.map_some, Option.getD_some, Tree.children, Element.bare, List.map_map,
    Function.comp_def, Stocked.tree_bare]

/-- No element of a document that was just read has two attributes of one name. -/
lemma Document.distinct_of_parse {markup : String} (h : Document.parse markup = .ok d) :
    ∀ t ∈ d.content.map Tree.bare, t.Distinct := by
  obtain ⟨trees, hparse, rfl⟩ := Document.parse_eq_ok.1 h
  rw [content_ofTrees, ← (Markup.parse_eq_ok.1 hparse).2]
  exact Markup.distinct_read markup

/-- Labels do not count for the scopes that elements are reached in. -/
lemma Tree.grounded_relabel {ι κ : Type} (f : ι → κ) {c : Setting} {scope : Value} (t : Tree ι) :
    (t.relabel f).grounded c scope = t.grounded c scope := by
  induction t using Tree.induct generalizing scope with
  | text label content => rfl
  | element label tag attrs hidden children ih =>
    have hall (scope : Value) : groundedAll c scope (relabelAll f children) =
        groundedAll c scope children := by
      rw [groundedAll_eq, groundedAll_eq, Stocked.relabelAll_eq_map, Bool.eq_iff_iff,
        List.all_eq_true, List.all_eq_true, List.forall_mem_map]
      exact forall₂_congr fun t ht => by rw [ih t ht]
    simp only [relabel, grounded, hall]

/-- A document node is reached as everything below it is. -/
lemma Tree.grounded_root {c : Setting} {scope : Value} {trees : List (Tree Unit)}
    (h : ∀ t ∈ trees, t.grounded c scope = true) :
    (Tree.element () "#document" [] false trees).grounded c scope = true := by
  have hds : Directives.ofAttrs c.engine.dialect
      (⟨"#document", [], false⟩ : Head).shell.describe [] =
      .ok {} := rfl
  simp only [grounded, hds, groundedAll_eq, List.all_eq_true.2 h]
  simp [Directives.scopeless]

/-- What a model leaves of a document, injected or refused, has become of the tree that was read. -/
lemma Template.Presents.inject_afterWalks {t : Template} {P : Element Unit} {root : Tree Unit}
    (h : t.Presents d P) (hintact : P.whole.TemplatesIntact e.dialect)
    (hafter : AfterWalks e.dialect false root P.whole) (hresettable : root.Resettable e.dialect)
    (m : Value) :
    ∃ Q, (t.inject e d m).template.Presents (t.inject e d m).document Q ∧
      Q.whole.TemplatesIntact e.dialect ∧ AfterWalks e.dialect false root Q.whole := by
  cases hnull : m.isNull with
  | true =>
    have hsame : t.inject e d m = t.unchanged d (.error (.fault ⟨.nullModel, none⟩)) := by
      simp only [Template.inject, hnull, if_true]
    rw [hsame]
    exact ⟨P, h, hintact, hafter⟩
  | false =>
    obtain ⟨-, hleft, hintactQ⟩ := h.inject_templatesIntact hintact hnull
    exact ⟨_, hleft, hintactQ,
      Local.keeps_afterWalks_inject (c := ⟨e, m⟩) e.maxDepth 0 m hresettable P hafter⟩

/-- What has become of a document node is not hidden. -/
lemma AfterWalks.root_shown {resets : Bool} {dialect : Dialect} {trees : List (Tree Unit)}
    {P : Element Unit}
    (h : AfterWalks dialect resets (.element () "#document" [] false trees) P.whole) :
    P.head.hidden = false :=
  (ElementAfterWalks.of_afterWalks (h := ⟨"#document", [], false⟩) h).head.hidden {} rfl rfl

/-- What is below elements that look alike, and of which one is shown, looks alike. -/
lemma Stocked.Alike.children {P Q : Element Unit} (h : P.whole.Alike Q.whole)
    (hshown : P.head.hidden = false) :
    List.Forall₂ Tree.Alike (P.children.map Stocked.tree) (Q.children.map Stocked.tree) := by
  obtain ⟨⟨tag, attrs, hidden⟩, stock, children⟩ := P
  obtain ⟨⟨tag', attrs', hidden'⟩, stock', children'⟩ := Q
  simp only [Stocked.Alike, Element.whole, Element.labelled, Stocked.tree_element] at h
  cases hshown
  cases h with
  | element _ hchildren => exact hchildren

/-- Documents that look alike have the same markup once one is put in order. -/
lemma Document.exists_reordered {d d' : Document}
    (h : List.Forall₂ Tree.Alike (d.content.map Tree.bare) (d'.content.map Tree.bare)) :
    ∃ ts, List.Forall₂ Tree.Reordered (d.content.map Tree.bare) ts ∧
      Tree.markups ts = d'.markup := by
  obtain ⟨ts, hts, hmarkup⟩ := Tree.exists_reordered_all h fun t _ u htu => htu.exists_reordered
  have hbare := Tree.markups_relabelAll (fun _ => ()) d'.content
  rw [Stocked.relabelAll_eq_map] at hbare
  exact ⟨ts, hts, hmarkup.trans (hbare.trans (markup_eq d').symm)⟩

/-- What a model leads to does not depend on what was injected before, with whatever success: where
no formatter fails, and where it reaches no element that sets attributes or has a condition in a
null scope, the markup is that of the same model in a document that was just read, but for the order
of attributes and the way in which classes are written. -/
theorem inject_renews {markup : String} (h : Document.parse markup = .ok d)
    (hjump : ∀ t ∈ d.elements, t.head.JumpFree e.dialect)
    (hunmarked : ∀ t ∈ d.elements, t.head.Unmarked e.dialect)
    (hclassed : ∀ t ∈ d.elements, t.head.Classed e.dialect)
    (hshown : ∀ t ∈ d.elements, t.head.showsValue e.dialect = true → t.elements = [])
    {m₁ m₂ : Value} (hgrounded : ∀ t ∈ d.content, t.grounded ⟨e, m₂⟩ m₂ = true)
    {noted noted' : List Fault} (hformatted : ∀ f ∈ noted, f.Formatted)
    (hfresh : ((Template.ofRoot Document.root).inject e d m₂).result = .ok noted) :
    let left := (Template.ofRoot Document.root).inject e d m₁
    let again := left.template.inject e left.document m₂
    let fresh := (Template.ofRoot Document.root).inject e d m₂
    again.result = .ok noted' →
      ∃ ts, List.Forall₂ Tree.Reordered (fresh.document.content.map Tree.bare) ts ∧
        Tree.markups ts = again.document.markup := by
  intro left again fresh hagain
  have hm : m₂.isNull = false := by
    cases m₂ with
    | null => cases hfresh
    | _ => rfl
  obtain ⟨trees, hpresents, hintact, hresettable⟩ :=
    Template.Presents.resettable_of_parse h hjump hunmarked hclassed hshown
  have htrees : d.content.map Tree.bare = trees :=
    hpresents.content.trans (Stocked.map_tree_ofTree trees)
  let root : Tree Unit := .element () "#document" [] false trees
  have hafter : AfterWalks e.dialect false root (Element.ofTrees trees).whole := by
    rw [Element.whole_ofTrees]
    exact afterWalks_ofTree root
  have hdistinct : root.Distinct :=
    Tree.distinct_element.2 ⟨List.nodup_nil, htrees ▸ Document.distinct_of_parse h⟩
  have hroot : root.grounded ⟨e, m₂⟩ m₂ = true := by
    refine Tree.grounded_root ?_
    rw [← htrees]
    exact List.forall_mem_map.2 fun t ht => (Tree.grounded_relabel _ t).trans (hgrounded t ht)
  -- whatever the first model leaves has become of the document that was read
  obtain ⟨P, hleft, hintactP, hafterP⟩ := hpresents.inject_afterWalks hintact hafter hresettable m₁
  obtain ⟨hresult, hpresents', -⟩ := hpresents.inject_templatesIntact hintact hm
  obtain ⟨hresult', hleft', -⟩ := hleft.inject_templatesIntact hintactP hm
  -- so the second model meets two trees that have become of the same tree
  have halike := Local.inject_alike (c := ⟨e, m₂⟩) e.maxDepth 0 m₂ hresettable hdistinct hroot
    (Element.ofTrees trees) P hafter hafterP
  have hafterR := Local.keeps_afterWalks_inject (c := ⟨e, m₂⟩) e.maxDepth 0 m₂ hresettable _ hafter
  have hcontent := hpresents'.content
  have hcontent' := hleft'.content
  rw [hfresh] at hresult
  rw [show (left.template.inject e left.document m₂).result = .ok noted' from hagain] at hresult'
  generalize Local.inject ⟨e, m₂⟩ e.maxDepth 0 [] m₂ false (Element.ofTrees trees) = run at *
  generalize Local.inject ⟨e, m₂⟩ e.maxDepth 0 [] m₂ false P = run' at *
  obtain ⟨result, R, notes⟩ := run
  obtain ⟨result', R', notes'⟩ := run'
  cases result with
  | error f => cases hresult
  | ok _ =>
    cases result' with
    | error f => cases hresult'
    | ok _ =>
      cases hresult
      have hrootAlike := halike rfl hformatted rfl
      refine Document.exists_reordered ?_
      rw [hcontent, hcontent']
      exact hrootAlike.children hafterR.root_shown

/-- The markup after two injections into one document, and after the second of them into a document
that was just read, if all of them succeed. -/
def markupsAfter (e : Engine) (markup : String) (m₁ m₂ : Value) : Option (String × String) := do
  let d ← (Document.parse markup).toOption
  let left := (Template.ofRoot Document.root).inject e d m₁
  let again := left.template.inject e left.document m₂
  let fresh := (Template.ofRoot Document.root).inject e d m₂
  let _ ← left.result.toOption
  let _ ← again.result.toOption
  let _ ← fresh.result.toOption
  return (again.document.markup, fresh.document.markup)

set_option maxRecDepth 2000 in
/-- Two models that set attributes and classes in another order, show and hide an element, and fill
a list. -/
theorem inject_renews_order : ∃ d ts,
    Document.parse
      "<p class=\"a\" data-css-class=\"on:k; off:a\" data-id=\"i\" data-title=\"t\">x<b data-text=\"v\">y</b></p><div data-object=\"o\"><i data-if=\"n\"/></div><ul data-list=\"xs\"><li data-text=\".\"></li></ul>" = .ok d ∧
    let m₁ : Value := .map [("o", .map [("n", .bool true)]), ("off", .bool false),
      ("on", .bool true), ("t", .string "T"), ("v", .string "V"),
      ("xs", .list [.string "1", .string "2"])]
    let m₂ : Value := .map [("i", .string "I"), ("o", .map [("n", .bool false)]),
      ("off", .bool true), ("on", .bool true), ("t", .string "U"), ("v", .string ""),
      ("xs", .list [.string "3"])]
    let left := (Template.ofRoot Document.root).inject {} d m₁
    let again := left.template.inject {} left.document m₂
    let fresh := (Template.ofRoot Document.root).inject {} d m₂
    fresh.document.markup =
      "<p class=\"a k\" data-css-class=\"on:k; off:a\" data-id=\"i\" data-title=\"t\" id=\"I\" title=\"U\">x<b data-text=\"v\"/></p><div data-object=\"o\"></div><ul data-list=\"xs\"><li data-text=\".\">3</li></ul>" ∧
      again.document.markup =
        "<p class=\"k a\" data-css-class=\"on:k; off:a\" data-id=\"i\" data-title=\"t\" title=\"U\" id=\"I\">x<b data-text=\"v\"/></p><div data-object=\"o\"></div><ul data-list=\"xs\"><li data-text=\".\">3</li></ul>" ∧
      List.Forall₂ Tree.Reordered (fresh.document.content.map Tree.bare) ts ∧
      Tree.markups ts = again.document.markup := by
  let m₁ : Value := .map [("o", .map [("n", .bool true)]), ("off", .bool false),
    ("on", .bool true), ("t", .string "T"), ("v", .string "V"),
    ("xs", .list [.string "1", .string "2"])]
  let m₂ : Value := .map [("i", .string "I"), ("o", .map [("n", .bool false)]),
    ("off", .bool true), ("on", .bool true), ("t", .string "U"), ("v", .string ""),
    ("xs", .list [.string "3"])]
  obtain ⟨d, hparse, helements, hgrounded, hfresh, hagain, hmarkups⟩ := exists_ok_of_check
    (Document.parse
      "<p class=\"a\" data-css-class=\"on:k; off:a\" data-id=\"i\" data-title=\"t\">x<b data-text=\"v\">y</b></p><div data-object=\"o\"><i data-if=\"n\"/></div><ul data-list=\"xs\"><li data-text=\".\"></li></ul>")
    (p := fun d =>
      let left := (Template.ofRoot Document.root).inject {} d m₁
      let again := left.template.inject {} left.document m₂
      let fresh := (Template.ofRoot Document.root).inject {} d m₂
      (∀ t ∈ d.elements, t.head.JumpFree Dialect.standard ∧ t.head.Unmarked Dialect.standard ∧
        t.head.Classed Dialect.standard ∧
          (t.head.showsValue Dialect.standard = true → t.elements.length = 0)) ∧
      (∀ t ∈ d.content, t.grounded ⟨{}, m₂⟩ m₂ = true) ∧
      fresh.result.toOption.map List.length = some 0 ∧ again.result.toOption.isSome = true ∧
      fresh.document.markup =
        "<p class=\"a k\" data-css-class=\"on:k; off:a\" data-id=\"i\" data-title=\"t\" id=\"I\" title=\"U\">x<b data-text=\"v\"/></p><div data-object=\"o\"></div><ul data-list=\"xs\"><li data-text=\".\">3</li></ul>" ∧
      again.document.markup =
        "<p class=\"k a\" data-css-class=\"on:k; off:a\" data-id=\"i\" data-title=\"t\" title=\"U\" id=\"I\">x<b data-text=\"v\"/></p><div data-object=\"o\"></div><ul data-list=\"xs\"><li data-text=\".\">3</li></ul>")
    (by decide +kernel)
  cases hnoted : ((Template.ofRoot Document.root).inject {} d m₂).result with
  | error f =>
    rw [hnoted] at hfresh
    cases hfresh
  | ok noted =>
    rw [hnoted] at hfresh
    have hquiet : noted = [] := by simpa [Except.toOption] using hfresh
    cases hnoted' : (((Template.ofRoot Document.root).inject {} d m₁).template.inject {}
        ((Template.ofRoot Document.root).inject {} d m₁).document m₂).result with
    | error f =>
      rw [hnoted'] at hagain
      cases hagain
    | ok noted' =>
      obtain ⟨ts, hts, hmarkup⟩ := inject_renews (e := {}) hparse
        (fun t ht => (helements t ht).1) (fun t ht => (helements t ht).2.1)
        (fun t ht => (helements t ht).2.2.1)
        (fun t ht hshows => List.length_eq_zero_iff.1 ((helements t ht).2.2.2 hshows)) hgrounded
        (by simp [hquiet]) hnoted hnoted'
      exact ⟨d, ts, hparse, hmarkups.1, hmarkups.2, hts, hmarkup⟩

/-- A formatter for strings. -/
def stringFormatter : Formatter where
  format
    | .string text => .ok text
    | _ => .error "no string"
  parse text := .ok (.string text)

/-- Traces of the first model are left where the second reaches an attribute in a null scope, where
it has no class to add, where it removes a class that holds a blank, where a value no longer takes
the place of elements, and where a formatter fails. Classes may stand in another order. -/
theorem inject_leaves_traces :
    markupsAfter {} "<div data-object=\"o\"><p data-title=\"t\"/></div>"
        (.map [("o", .map [("t", .string "x")])]) (.map [("o", .null)]) =
      some ("<div data-object=\"o\"><p data-title=\"t\" title=\"x\"/></div>",
        "<div data-object=\"o\"><p data-title=\"t\"/></div>") ∧
    markupsAfter {} "<p data-css-class=\"k\"/>" (.map [("k", .string "a")]) (.map [("k", .null)]) =
      some ("<p data-css-class=\"k\" class=\"a\"/>", "<p data-css-class=\"k\"/>") ∧
    markupsAfter {} "<p data-css-class=\"on:a b\"/>" (.map [("on", .bool true)])
        (.map [("on", .bool false)]) =
      some ("<p data-css-class=\"on:a b\" class=\"a b\"/>", "<p data-css-class=\"on:a b\"/>") ∧
    markupsAfter {} "<div data-value=\"v\"><b data-title=\"t\"/></div>"
        (.map [("t", .string "x"), ("v", .string "1")]) (.map [("t", .string "x"), ("v", .null)]) =
      some ("<div data-value=\"v\"/>",
        "<div data-value=\"v\"><b data-title=\"t\" title=\"x\"/></div>") ∧
    markupsAfter (({} : Engine).addFormatter "f" stringFormatter)
        "<p data-format=\"f\" data-text=\"v\">y</p>" (.map [("v", .string "1")])
        (.map [("v", .bool true)]) =
      some ("<p data-format=\"f\" data-text=\"v\">1</p>",
        "<p data-format=\"f\" data-text=\"v\">y</p>") ∧
    markupsAfter {} "<p class=\"a b\" data-css-class=\"on:a\"/>" (.map [("on", .bool false)])
        (.map [("on", .bool true)]) =
      some ("<p class=\"b a\" data-css-class=\"on:a\"/>",
        "<p class=\"a b\" data-css-class=\"on:a\"/>") := by
  decide +kernel

end TreeTemplate
