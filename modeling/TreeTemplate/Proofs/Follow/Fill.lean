import TreeTemplate.Proofs.Follow.Attributes
import TreeTemplate.Proofs.Follow.Below
import TreeTemplate.Proofs.Follow.Templates

/-!
# Operators that fill elements, followed

Each operator that fills an element without templates follows the local action for it.

Main statements:

* `Follows.runText`, `Follows.runHtml` — text and markup;
* `Follows.runObject`, `Follows.runNumbering`, `Follows.runOptions` — scopes, labels and options.
-/

namespace TreeTemplate

variable {here : Place} {φ : Frame} {s : Walk.State} {P : Element NodeId} {I : Element Unit → Prop}
  {operand : String} {c : Setting} {scope : Value}

/-- Labels do not matter for whether there are elements below an element. -/
lemma Element.isEmpty_elements (P : Element NodeId) (n : NodeId) :
    (P.labelled n).tree.elements.isEmpty = P.bare.elements.isEmpty := by
  rw [elements_tree, elements_bare, List.isEmpty_map, List.isEmpty_map]

namespace Follows

/-- A text takes the place of texts. -/
lemma setText (content : String) (helements : P.bare.elements.isEmpty = true)
    (h : Holds s here φ P) :
    Reaches s (Shows here φ) (Walk.edit here.node (fun n d => d.setText? n content) s)
      (Local.fillText content P.bare) := by
  have hnone : P.children.filter Stocked.isElement = [] := by
    rw [Element.elements_bare, List.isEmpty_map] at helements
    exact List.isEmpty_iff.1 helements
  have hroots := Stocked.flatMap_filter_elements (f := Stocked.roots) (fun _ _ => rfl) P.children
  have hentries :=
    Stocked.flatMap_filter_elements (f := Stocked.entries) (fun _ _ => rfl) P.children
  rw [hnone, List.flatMap_nil] at hroots hentries
  obtain ⟨planted, d, e, hbare, hd⟩ :=
    (h.document_of hroots.symm).replaceChildren? [Tree.text () content]
  have hrun : Walk.edit here.node (fun n d => d.setText? n content) s =
      (.ok (), { s with document := d }) := Walk.run_edit e
  have hfill : (P.fill (planted.map Stocked.ofTree)).bare =
      P.bare.fill [.text () content] := by
    simp only [Element.fill, Element.bare, Stocked.bare_ofTrees, hbare]
    rfl
  rw [hrun]
  simp only [Local.fillText, Local.change, ← hfill]
  exact Reaches.of_holds (.ok ()) rfl rfl (h.refill hentries.symm planted hd)

/-- Filling in a text follows the local action. -/
lemma runText : Follows here φ Element.Ready (ContentOperator.runText c here.node scope operand)
    (Local.runText c scope operand) := by
  intro s P hP h
  unfold ContentOperator.runText Local.runText Setting.read
  split
  · exact removeText hP h
  · rw [Walk.run_bind_of_ok h.run_node, Local.look_bind, Element.isEmpty_elements,
      Element.describe_tree]
    split
    · exact refuse _ hP h
    · rename_i helements
      replace helements : P.bare.elements.isEmpty = true := by simpa using helements
      have hshown (value : Value) : Reaches s (Shows here φ)
          ((Walk.check (c.display (P.labelled here.node).tree value) >>= fun shown =>
            Walk.edit here.node fun n d => d.setText? n shown) s)
          ((Local.check (c.display P.bare.shell value) >>= Local.fillText) P.bare) := by
        rw [Element.display_tree, Element.shell_bare]
        cases c.display P.shell value with
        | error cause =>
          rw [Walk.check_error_bind, Local.check_error_bind]
          exact refuse cause hP h
        | ok shown =>
          rw [Walk.check_ok_bind, Local.check_ok_bind]
          exact setText shown helements h
      cases Path.read c.model scope operand with
      | error cause =>
        rw [Walk.check_error_bind, Local.check_error_bind]
        exact refuse cause hP h
      | ok value =>
        rw [Walk.check_ok_bind, Local.check_ok_bind]
        cases value with
        | null => exact removeText hP h
        | string text =>
          by_cases ht : text = ""
          · subst ht
            exact removeText hP h
          · have := hshown (.string text)
            simpa only [Value.string.injEq, ht, imp_self, reduceCtorEq] using this
        | _ => exact hshown _

/-- What markup holds takes the place of everything below an element. -/
lemma fillMarkup (markup : String) (hP : P.bare.Ready) (h : Holds s here φ P) :
    Reaches s (Shows here φ) ((do
        Walk.forgetBelow here.node
        ContentOperator.fillMarkup here.node markup : Walk Unit) s)
      (Local.fillMarkup markup P.bare) := by
  obtain ⟨d, stash, hforget, hholds⟩ := h.forgetBelow hP.children
  obtain ⟨planted, d', e, hbare, hd⟩ := (hholds.document_of (by simp)).setMarkup? markup
  have hnow := hholds.refill (by simp) planted hd
  rw [Walk.run_bind_of_ok hforget]
  unfold Local.fillMarkup ContentOperator.fillMarkup
  rw [Walk.run_get]
  dsimp only
  rw [e]
  dsimp only
  rw [Walk.run_bind_of_ok (Walk.run_modify _ _)]
  cases hfault : (Markup.read markup).fault? with
  | none =>
    rw [hfault] at hbare
    have hfill : (P.fill (planted.map Stocked.ofTree)).bare =
        P.bare.fill ((Markup.read markup).trees.map Stocked.ofTree) := by
      simp only [Element.fill, Element.bare, Stocked.bare_ofTrees, hbare, Stocked.relabelAll_unit]
    simp only [Local.change, ← hfill]
    exact Reaches.of_holds (.ok ()) rfl rfl hnow
  | some fault =>
    rw [hfault] at hbare
    have hfill : (P.fill (planted.map Stocked.ofTree)).bare = P.bare.fill [] := by
      simp only [Element.fill, Element.bare, Stocked.bare_ofTrees, hbare, List.map_nil]
    have hclear : (Local.clear >>= fun _ => Local.refuse (.markup fault)) P.bare =
        (⟨.error ⟨.markup fault, none⟩, P.bare.fill [], []⟩ : Yield (Element Unit) Unit) := rfl
    dsimp only
    rw [hclear, ← hfill]
    exact Reaches.of_holds (.error ⟨.markup fault, none⟩) rfl rfl hnow

/-- Filling in markup follows the local action. -/
lemma runHtml : Follows here φ Element.Ready (ContentOperator.runHtml c here.node scope operand)
    (Local.runHtml c scope operand) := by
  intro s P hP h
  unfold ContentOperator.runHtml Local.runHtml Setting.read
  split
  · exact clear hP h
  · cases Path.read c.model scope operand with
    | error cause =>
      rw [Walk.check_error_bind, Local.check_error_bind]
      exact refuse cause hP h
    | ok value =>
      rw [Walk.check_ok_bind, Local.check_ok_bind]
      cases value with
      | null => exact clear hP h
      | string markup => exact fillMarkup markup hP h
      | _ => exact refuse _ hP h

/-- Opening a scope follows the local action. -/
lemma runObject : Follows here φ I (ContentOperator.runObject c scope operand)
    (Local.runObject c scope operand) := by
  unfold ContentOperator.runObject Local.runObject Setting.read
  split
  · exact pure _
  · refine bind (check _) (Local.Keeps.check _) fun value => ?_
    split
    · exact pure _
    · exact refuse _

/-- Filling in a label follows the local action. -/
lemma runNumbering : Follows here φ Element.Ready
    (ContentOperator.runNumbering here.node operand)
    (Local.runNumbering here.positions operand) := by
  unfold ContentOperator.runNumbering Local.runNumbering
  refine bind (checkOperand _) (Local.Keeps.checkOperand _) fun format => ?_
  intro s P hP h
  rw [Walk.run_get, h.positions]
  exact bind (check _) (Local.Keeps.check _) (fun label => fillText label) hP h

/-- An option is put behind the nodes below an element. -/
lemma appendOption (item : Value) : Follows here φ I (ContentOperator.appendOption here.node item)
    (Local.appendOption item) := by
  intro s P hP h
  unfold ContentOperator.appendOption Local.appendOption
  cases item.text? with
  | none => exact refuse _ hP h
  | some shown =>
    obtain ⟨u, d, e, hbare, hd⟩ := h.document.plant
      (Tree.element () "option" [("value", shown)] false [.text () shown])
    obtain ⟨d', e', hholds⟩ := (h.congr rfl rfl rfl rfl).append hd
    have hedit : Walk.edit here.node (fun n d => d.append? n u.label)
        { s with document := d } = (.ok (), { s with document := d' }) := Walk.run_edit e'
    have happend : (P.append [.ofTree u]).bare = P.bare.append
        [.element () ⟨"option", [("value", shown)], false⟩ [] [.text () shown]] := by
      simp only [Element.append, Element.fill, Element.bare, List.map_append, List.map_cons,
        List.map_nil,
        Stocked.bare_ofTree, hbare]
      rfl
    dsimp only
    rw [Walk.run_get, e]
    dsimp only
    rw [(Walk.run_bind_of_ok (Walk.run_modify _ _)).trans hedit]
    simp only [Local.change, ← happend]
    exact Reaches.of_holds (.ok ()) rfl rfl hholds

end Follows

namespace Local

/-- Clearing leaves an element ready. -/
lemma keeps_clear : Keeps Element.Ready clear :=
  Keeps.change fun _ hP => hP.fill (by simp)

/-- Appending an option leaves an element ready. -/
lemma keeps_appendOption (item : Value) : Keeps Element.Ready (appendOption item) := by
  unfold appendOption
  cases item.text? with
  | none => exact Keeps.refuse _
  | some shown =>
    refine Keeps.change fun P hP => hP.fill fun t ht => ?_
    rcases List.mem_append.1 ht with ht | ht
    · exact hP.fits t ht
    · have hoption : Stocked.ofTree (.element () "option" [("value", shown)] false
          [.text () shown]) = .element () ⟨"option", [("value", shown)], false⟩ []
          [.text () shown] := Stocked.ofTree_element
      rw [List.mem_singleton.1 ht]
      exact ⟨hoption ▸ Stocked.fit_ofTree _, hoption ▸ Stocked.tidy_ofTree _⟩

end Local

namespace Follows

/-- Filling in options follows the local action. -/
lemma runOptions : Follows here φ Element.Ready
    (ContentOperator.runOptions c here.node scope operand) (Local.runOptions c scope operand) := by
  intro s P hP h
  unfold ContentOperator.runOptions Local.runOptions Setting.read
  rw [Walk.run_bind_of_ok h.run_node, Local.look_bind, Element.hasTag_tree, Element.describe_tree,
    Element.shell_bare]
  split
  · exact refuse _ hP h
  · split
    · exact clear hP h
    · cases Path.read c.model scope operand with
      | error cause =>
        rw [Walk.check_error_bind, Local.check_error_bind]
        exact refuse cause hP h
      | ok value =>
        rw [Walk.check_ok_bind, Local.check_ok_bind]
        cases value with
        | null => exact clear hP h
        | list items =>
          exact bind clear Local.keeps_clear (fun _ => forM (fun item _ => appendOption item)
            fun item _ => Local.keeps_appendOption item) hP h
        | _ => exact refuse _ hP h

end Follows

end TreeTemplate
