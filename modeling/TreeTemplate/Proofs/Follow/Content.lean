import TreeTemplate.Proofs.Follow.Policy
import TreeTemplate.Proofs.Local.Inject

/-!
# Changing an element, followed

The changes that operators make to an element and to what is below it. Where nodes are removed, the
templates that are stashed for them are forgotten first, so the element has to be ready for it.

Main statements:

* `Follows.editNode`, `Follows.removeText`, `Follows.clear`, `Follows.fillText` — changes in place;
* `Holds.refill` — other nodes below an element.
-/

namespace TreeTemplate

variable {here : Place} {φ : Frame} {s : Walk.State} {P : Element NodeId} {I : Element Unit → Prop}

/-- An element is ready to have what is below it forgotten. -/
def Element.Ready (P : Element Unit) : Prop :=
  P.whole.Fit ∧ ∀ t ∈ P.children, t.Tidy

/-- An element is ready when trees are put below it that are. -/
lemma Element.Ready.fill {P : Element Unit} {ts : List (Stocked Unit)} (h : P.Ready)
    (hts : ∀ t ∈ ts, t.Fit ∧ t.Tidy) : (P.fill ts).Ready := by
  obtain ⟨hlength, hstock, -⟩ := Stocked.fit_element.1 h.1
  exact ⟨Stocked.fit_element.2 ⟨hlength, hstock, fun t ht => (hts t ht).1⟩,
    fun t ht => (hts t ht).2⟩

/-- The stock of what is below an element that is ready fits and is tidy. -/
lemma Element.Ready.fits {P : Element Unit} (h : P.Ready) : ∀ t ∈ P.children, t.Fit ∧ t.Tidy :=
  fun t ht => ⟨(Stocked.fit_element.1 h.1).2.2 t ht, h.2 t ht⟩

/-- The stock of what is below an element is as its stock without labels. -/
lemma Element.Ready.children (h : P.bare.Ready) : ∀ t ∈ P.children, t.Fit ∧ t.Tidy := by
  obtain ⟨hfit, htidy⟩ := h
  have hfits := (Stocked.fit_element.1 hfit).2.2
  exact fun t ht => ⟨Stocked.fit_bare.1 (hfits _ (List.mem_map_of_mem ht)),
    Stocked.tidy_bare.1 (htidy _ (List.mem_map_of_mem ht))⟩

/-- It does not matter whether trees lose their labels before or after they are given a stock. -/
lemma Stocked.bare_ofTrees (ts : List (Tree NodeId)) :
    (ts.map ofTree).map bare = (Tree.relabelAll (fun _ => ()) ts).map ofTree := by
  rw [relabelAll_eq_map, List.map_map, List.map_map]
  exact List.map_congr_left fun t _ => bare_ofTree t

/-- The texts below an element have neither templates nor entries. -/
lemma Stocked.flatMap_filter_elements {β : Type} {f : Stocked NodeId → List β}
    (hf : ∀ n content, f (.text n content) = []) (ts : List (Stocked NodeId)) :
    (ts.filter isElement).flatMap f = ts.flatMap f := by
  induction ts with
  | nil => rfl
  | cons t ts ih =>
    cases t with
    | element => simp [List.filter_cons, isElement, ih]
    | text => simp [isElement, hf, ih]

namespace Holds

/-- The trees of a state that holds an element whose children have no stock. -/
lemma document_of (h : Holds s here φ P) (hroots : P.children.flatMap Stocked.roots = []) :
    s.document.Has (φ.context.plug (.element here.node P.head.tag P.head.attrs P.head.hidden
      (P.children.map Stocked.tree)) ::
        (P.stock.map Stocked.tree ++ P.stock.flatMap Stocked.roots ++ φ.trees)) := by
  simpa [Element.labelled, hroots] using h.document

/-- Other nodes take the place of children that have no stock. -/
lemma refill (h : Holds s here φ P) (hentries : P.children.flatMap Stocked.entries = [])
    {d : Document} (trees : List (Tree NodeId))
    (hd : d.Has (φ.context.plug (.element here.node P.head.tag P.head.attrs P.head.hidden trees) ::
      (P.stock.map Stocked.tree ++ P.stock.flatMap Stocked.roots ++ φ.trees))) :
    Holds { s with document := d } here φ (P.fill (trees.map Stocked.ofTree)) := by
  refine ⟨?_, ?_, h.positions, h.depth⟩
  · rw [Element.labelled, Element.fill, Stocked.tree_element, Stocked.roots_element,
      Stocked.map_tree_ofTree, Stocked.roots_ofTrees, List.append_nil]
    exact hd
  · have hstash := h.stash
    rw [Element.labelled, Stocked.entries_element, hentries] at hstash
    rwa [Element.labelled, Element.fill, Stocked.entries_element, Stocked.entries_ofTrees]

/-- Everything below an element is removed, and the stock stays. -/
lemma clear (h : Holds s here φ P) (hready : P.bare.Ready) :
    ∃ d stash, Walk.clear here.node s = (.ok (), { s with document := d, stash := stash }) ∧
      Holds { s with document := d, stash := stash } here φ (P.fill []) := by
  obtain ⟨d, stash, hforget, hholds⟩ := h.forgetBelow hready.children
  obtain ⟨d', e, hd⟩ := (hholds.document_of (by simp)).removeChildrenWhere? fun _ => true
  exact ⟨d', stash, (Walk.run_bind_of_ok hforget).trans (Walk.run_edit e),
    hholds.refill (by simp) [] (by simpa using hd)⟩

end Holds

namespace Follows

/-- An element is changed in place. -/
lemma editNode {f : Tree NodeId → Tree NodeId} {g : Tree Unit → Tree Unit}
    (hf : ∀ P : Element NodeId, f (P.labelled here.node).tree =
      ((P.edit g).labelled here.node).tree) :
    Follows here φ I (Walk.editNode here.node f) (Local.change (Element.edit g)) := by
  intro s P _ h
  have hreleased : (f (P.labelled here.node).tree).released.Perm
      (P.labelled here.node).tree.released := by
    rw [hf]
    simp only [Element.labelled, Element.edit, Stocked.tree_element, Tree.released_element]
    exact .refl _
  obtain ⟨d, e, hd⟩ := h.document.update? hreleased
  rw [Stocked.label_tree] at e
  have hrun : Walk.editNode here.node f s = (.ok (), { s with document := d }) :=
    Walk.run_edit e
  rw [hrun]
  refine Reaches.of_holds (Q := P.edit g) (.ok ()) rfl rfl
    ⟨?_, h.stash, h.positions, h.depth⟩
  rw [hf] at hd
  exact hd

/-- Setting or removing an attribute follows the touch that does so. -/
lemma putAttribute {operator : Operator} {operand name : String} (value? : Option String) :
    Follows here φ I (Walk.putAttribute here.node name value?)
      (Touch.play operator operand (.put name value?)) := by
  cases value? with
  | none => exact editNode fun P => rfl
  | some value => exact editNode fun P => rfl

/-- Hiding or showing an element follows the local action. -/
lemma setHidden (hidden : Bool) :
    Follows here φ I (Walk.editNode here.node (·.setHidden hidden)) (Local.setHidden hidden) :=
  editNode fun _ => rfl

/-- Adding or removing a class follows the touch that does so. -/
lemma toggle {operator : Operator} {operand name : String} (on : Bool) :
    Follows here φ I (AttributeOperator.toggle here.node name on)
      (Touch.play operator operand (.toggle name on)) := by
  cases on with
  | true =>
    refine editNode (g := Tree.addClass name) fun P => ?_
    have hclasses : (P.labelled here.node).tree.classes = P.shell.classes := rfl
    simp only [Element.edit, Element.labelled, if_true, Tree.addClass] at hclasses ⊢
    rw [hclasses]
    split <;> rfl
  | false =>
    refine editNode (g := Tree.removeClass name) fun P => ?_
    have hclasses : (P.labelled here.node).tree.classes = P.shell.classes := rfl
    have hattr : (P.labelled here.node).tree.attr? "class" = P.shell.attr? "class" := rfl
    simp only [Element.edit, Element.labelled, Bool.false_eq_true, if_false, Tree.removeClass] at *
    rw [hclasses, hattr]
    cases P.shell.attr? "class" with
    | none => rfl
    | some _ =>
      dsimp only
      split <;> rfl

/-- The texts below an element are removed. -/
lemma removeText : Follows here φ I (Walk.removeText here.node) Local.removeText := by
  intro s P _ h
  have hdocument := h.document
  rw [Element.labelled, Stocked.tree_element] at hdocument
  obtain ⟨d, e, hd⟩ := hdocument.removeChildrenWhere? fun t => !t.isElement
  have hrun : Walk.removeText here.node s = (.ok (), { s with document := d }) :=
    Walk.run_edit e
  have hbare : P.removeText.bare = P.bare.removeText := by
    simp [Element.removeText, Element.fill, Element.bare, List.filter_map, Function.comp_def]
  rw [hrun]
  simp only [Local.removeText, Local.change, ← hbare]
  refine Reaches.of_holds (.ok ()) rfl rfl
    ⟨?_, ?_, h.positions, h.depth⟩
  · have hroots := Stocked.flatMap_filter_elements (f := Stocked.roots) (fun _ _ => rfl) P.children
    simpa [Element.labelled, Element.removeText, Element.fill, hroots, List.filter_map,
      Function.comp_def] using hd
  · have hentries :=
      Stocked.flatMap_filter_elements (f := Stocked.entries) (fun _ _ => rfl) P.children
    simpa [Element.labelled, Element.removeText, Element.fill, hentries] using h.stash

/-- Everything below an element is removed. -/
lemma clear : Follows here φ Element.Ready (Walk.clear here.node) Local.clear := by
  intro s P hready h
  obtain ⟨d, stash, hrun, hholds⟩ := h.clear hready
  rw [hrun]
  exact Reaches.of_holds (Q := P.fill []) (.ok ()) rfl rfl hholds

/-- A text takes the place of everything below an element. -/
lemma fillText (content : String) :
    Follows here φ Element.Ready (Walk.fillText here.node content) (Local.fillText content) := by
  intro s P hready h
  obtain ⟨d, stash, hforget, hholds⟩ := h.forgetBelow hready.children
  obtain ⟨planted, d', e, hbare, hd⟩ :=
    (hholds.document_of (by simp)).replaceChildren? [Tree.text () content]
  have hrun : Walk.fillText here.node content s =
      (.ok (), { s with document := d', stash := stash }) :=
    (Walk.run_bind_of_ok hforget).trans (Walk.run_edit e)
  have hfill : (P.fill (planted.map Stocked.ofTree)).bare =
      P.bare.fill [.text () content] := by
    simp only [Element.fill, Element.bare, Stocked.bare_ofTrees, hbare]
    rfl
  rw [hrun]
  simp only [Local.fillText, Local.change, ← hfill]
  exact Reaches.of_holds (.ok ()) rfl rfl (hholds.refill (by simp) planted hd)

end Follows

end TreeTemplate
