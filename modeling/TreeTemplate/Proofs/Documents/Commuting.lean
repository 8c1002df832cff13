import TreeTemplate.Proofs.Documents.Elements
import TreeTemplate.Proofs.Follow.Spots

/-!
# Values for two elements

Values that are injected into two elements of which none is inside the other do not get in each
other's way. Whichever is injected first, each of the two is answered as if it were alone, and what
is left looks the same. New nodes may get other identities, which cannot be seen.

Main statements:

* `injectElement_comm` — two elements of a document that was read.
-/

namespace TreeTemplate

open Stocked (at? put)

variable {e : Engine} {d : Document} {T : Stocked NodeId} {p q : List Nat}

namespace Stocked

variable {x y : Stocked NodeId}

/-- Where no jump leaves an element, none leaves one outside of markup that is filled in. -/
lemma All.allBut {ι : Type} {skip : Head → Bool} {P : Element ι → Prop} {t : Stocked ι}
    (h : t.All P) :
    t.AllBut skip P := by
  induction t using Stocked.induct with
  | text label content => trivial
  | element label head stock children hs hc =>
    obtain ⟨hP, hstock, hchildren⟩ := all_element.1 h
    exact allBut_element.2 ⟨hP, fun t ht => hs t ht (hstock t ht),
      fun _ t ht => hc t ht (hchildren t ht)⟩

/-- The spots of two nodes of which the second one is not inside the first one. -/
lemma not_prefix_of_find?_eq_none (hx : at? p T = some x) (hy : at? q T = some y)
    (h : x.tree.find? y.label = none) : ¬ p <+: q := by
  rintro ⟨r, rfl⟩
  rw [at?_append, hx, Option.bind_some] at hy
  obtain ⟨C, hC⟩ := Tree.exists_plug_of_mem_nodes (mem_nodes_of_at? hy)
  have hmem : y.label ∈ x.tree.released := by
    rw [hC, ← label_tree]
    exact Tree.mem_released_plug.2 (.inl (Tree.label_mem_released _))
  obtain ⟨u, hu⟩ := Tree.exists_find? hmem
  rw [h] at hu
  cases hu

end Stocked

/-- An element of a document that was read is at a spot, and it can be entered if no element is left
by a jump. -/
lemma Template.HoldsStocked.exists_at? {r : Template} {trees : List (Tree Unit)}
    (h : r.HoldsStocked d T)
    (hbare : T.bare = (Element.ofTrees trees).whole)
    (hjump : T.bare.All fun P => P.head.JumpFree e.dialect) {a : Tree NodeId}
    (ha : a ∈ d.attached) (helement : a.isElement = true) :
    ∃ (p : List Nat) (x : Element NodeId), at? p T = some (x.labelled a.label) ∧
      (x.labelled a.label).tree = a ∧ Entered e.dialect x.bare.whole := by
  obtain ⟨p, x, hp, htree⟩ := h.exists_spot ha helement
  refine ⟨p, x, hp, htree, ?_⟩
  have hspot : at? p T.bare = some x.bare.whole := by
    rw [Stocked.at?_bare, hp, Option.map_some, Element.bare_labelled]
  rw [Element.whole_ofTrees] at hbare
  have hfit : T.bare.Fit := hbare ▸ Stocked.fit_ofTree _
  have htidy : T.bare.Tidy := hbare ▸ Stocked.tidy_ofTree _
  exact ⟨Stocked.All.at? hfit hspot, Stocked.All.at? htidy hspot,
    Stocked.All.allBut (Stocked.All.at? hjump hspot)⟩

/-- Two values for elements of which none is inside the other are injected in any order. -/
lemma Template.HoldsStocked.two_elements {r : Template} (h : r.HoldsStocked d T) {a b : NodeId}
    {x y : Element NodeId} (hx : at? p T = some (x.labelled a)) (hy : at? q T = some (y.labelled b))
    (hpq : ¬ p <+: q) (hqp : ¬ q <+: p) (hex : Entered e.dialect x.bare.whole)
    (hey : Entered e.dialect y.bare.whole) {v w : Value} (hv : v.isNull = false)
    (hw : w.isNull = false) :
    let one := r.injectElement e d a v
    let both := one.template.injectElement e one.document b w
    let other := r.injectElement e d b w
    let back := other.template.injectElement e other.document a v
    one.result = back.result ∧ both.result = other.result ∧
      ∃ T T', both.template.HoldsStocked both.document T ∧
        back.template.HoldsStocked back.document T' ∧
        T.bare = T'.bare := by
  obtain ⟨x₁, hx₁, hone, hstocked₁⟩ := h.injectElement hx hex hv
  obtain ⟨y₁, hy₁, hother, hstocked₁'⟩ := h.injectElement hy hey hw
  -- the call for one element leaves the other one as it was, at its spot
  obtain ⟨y₂, hy₂, hboth, hstocked₂⟩ :=
    hstocked₁.injectElement ((Stocked.at?_put_of_disjoint hpq hqp).trans hy) hey hw
  obtain ⟨x₂, hx₂, hback, hstocked₂'⟩ :=
    hstocked₁'.injectElement ((Stocked.at?_put_of_disjoint hqp hpq).trans hx) hex hv
  refine ⟨hone.trans hback.symm, hboth.trans hother.symm, _, _, hstocked₂, hstocked₂', ?_⟩
  simp only [Stocked.put_bare, Element.bare_labelled, hx₁, hx₂, hy₁, hy₂]
  exact Stocked.put_comm hqp hpq

/-- In a document that was just read, and in which no element is left by a jump, values are injected
into two elements of which none is inside the other. In either order each of the two calls has the
same result, and the two documents have the same markup, the same elements hidden and the same
number of nodes. -/
theorem injectElement_comm {markup : String} (h : Document.parse markup = .ok d)
    (hjump : ∀ t ∈ d.elements, t.head.JumpFree e.dialect) (root : NodeId) {a b : Tree NodeId}
    (ha : a ∈ d.attached) (hb : b ∈ d.attached) (ha' : a.isElement = true)
    (hb' : b.isElement = true) (hab : a.find? b.label = none) (hba : b.find? a.label = none)
    {v w : Value} (hv : v.isNull = false) (hw : w.isNull = false) :
    let one := (Template.ofRoot root).injectElement e d a.label v
    let both := one.template.injectElement e one.document b.label w
    let other := (Template.ofRoot root).injectElement e d b.label w
    let back := other.template.injectElement e other.document a.label v
    one.result = back.result ∧ both.result = other.result ∧
      both.document.markup = back.document.markup ∧
      both.document.elements.map Tree.isHidden = back.document.elements.map Tree.isHidden ∧
      both.document.nodeCount = back.document.nodeCount := by
  obtain ⟨trees, hpresents, hall⟩ := Template.Presents.all_of_parse h
    (p := fun head => head.JumpFree e.dialect) (by simp [Head.JumpFree]) hjump
  obtain ⟨T, hstocked, hbare⟩ := Template.HoldsStocked.of_presents hpresents root
  rw [← hbare] at hall
  obtain ⟨p, x, hx, hxa, hex⟩ := hstocked.exists_at? hbare hall ha ha'
  obtain ⟨q, y, hy, hyb, hey⟩ := hstocked.exists_at? hbare hall hb hb'
  have hpq := Stocked.not_prefix_of_find?_eq_none hx hy (by rw [hxa]; exact hab)
  have hqp := Stocked.not_prefix_of_find?_eq_none hy hx (by rw [hyb]; exact hba)
  obtain ⟨hone, hboth, T₁, T₂, hleft, hleft', hsame⟩ :=
    hstocked.two_elements hx hy hpq hqp hex hey hv hw
  obtain ⟨hmarkup, hheads, hcount⟩ := hleft.seen_eq hleft' hsame
  refine ⟨hone, hboth, hmarkup, ?_, hcount⟩
  simpa [List.map_map, Function.comp_def, Tree.head] using congrArg (List.map Head.hidden) hheads

set_option maxRecDepth 2000 in
/-- A list and an element beside it are filled in either order. -/
theorem injectElement_comm_list : ∃ d,
    Document.parse
      "<ul data-list=\"xs\"><li data-text=\".\"></li></ul><div><b data-title=\"t\">x</b></div>" =
      .ok d ∧
    ∃ a ∈ d.attached, ∃ b ∈ d.attached, a.tag = "ul" ∧ b.tag = "div" ∧
      let v := Value.list [.string "1", .string "2"]
      let w := Value.map [("t", .string "T")]
      let one := (Template.ofRoot Document.root).injectElement {} d a.label v
      let both := one.template.injectElement {} one.document b.label w
      let other := (Template.ofRoot Document.root).injectElement {} d b.label w
      let back := other.template.injectElement {} other.document a.label v
      both.document.markup =
        "<ul data-list=\"xs\"><li data-text=\".\">1</li><li data-text=\".\">2</li></ul><div><b data-title=\"t\" title=\"T\">x</b></div>" ∧
        one.result = back.result ∧ both.result = other.result ∧
        both.document.markup = back.document.markup ∧
        both.document.elements.map Tree.isHidden = back.document.elements.map Tree.isHidden ∧
        both.document.nodeCount = back.document.nodeCount := by
  obtain ⟨d, hparse, hjump, a, ha, b, hb, ⟨ha', hb', htag, htag'⟩, hab, hba, hmarkup⟩ :=
    exists_ok_of_check
      (Document.parse
        "<ul data-list=\"xs\"><li data-text=\".\"></li></ul><div><b data-title=\"t\">x</b></div>")
      (p := fun d => (∀ t ∈ d.elements, t.head.JumpFree Dialect.standard) ∧
        ∃ a ∈ d.attached, ∃ b ∈ d.attached,
          (a.isElement = true ∧ b.isElement = true ∧ a.tag = "ul" ∧ b.tag = "div") ∧
          (a.find? b.label).isNone = true ∧ (b.find? a.label).isNone = true ∧
          (let one := (Template.ofRoot Document.root).injectElement {} d a.label
            (.list [.string "1", .string "2"])
          (one.template.injectElement {} one.document b.label
            (.map [("t", .string "T")])).document.markup) =
            "<ul data-list=\"xs\"><li data-text=\".\">1</li><li data-text=\".\">2</li></ul><div><b data-title=\"t\" title=\"T\">x</b></div>")
      (by decide +kernel)
  exact ⟨d, hparse, a, ha, b, hb, htag, htag', hmarkup,
    injectElement_comm (e := {}) hparse hjump Document.root ha hb ha' hb'
      (Option.isNone_iff_eq_none.1 hab)
      (Option.isNone_iff_eq_none.1 hba) rfl rfl⟩

end TreeTemplate
