import TreeTemplate.Proofs.Follow.Reset
import TreeTemplate.Proofs.Forest.Names
import TreeTemplate.Template

/-!
# Templates bound to the document node

A template that is bound to the document node, together with the document, presents an element
without labels: what the document looks like and what is stashed. What can be seen of the document
depends on this element alone, and injection and reset follow the local actions on it.

Main statements:

* `Presents.of_parse` — a document that was just read;
* `Presents.markup`, `Presents.heads`, `Presents.nodeCount` — what can be seen of a document;
* `Presents.inject`, `Presents.reset` — what becomes of it.
-/

namespace TreeTemplate

open Stocked (ownEntries storedOf)

variable {t : Template} {d : Document} {P : Element Unit} {e : Engine}

/-- The document node with the given nodes below it, and nothing stashed. -/
def Element.ofTrees (trees : List (Tree Unit)) : Element Unit :=
  ⟨⟨"#document", [], false⟩, [], trees.map Stocked.ofTree⟩

/-- The place at which a walk begins. -/
def Place.start : Place where
  node := Document.root
  positions := []
  depth := 0

/-- A template bound to the document node and its document present an element. -/
def Template.Presents (t : Template) (d : Document) (P : Element Unit) : Prop :=
  t.root = Document.root ∧ Shows .start .alone P { document := d, stash := t.stash }

namespace Tree

variable {ι κ : Type}

/-- How an element of a tree looks, without what is below it. -/
def head (t : Tree ι) : Head :=
  ⟨t.tag, t.attrs, t.isHidden⟩

/-- Other labels leave the head of a tree as it is. -/
@[simp]
lemma head_relabel (f : ι → κ) (t : Tree ι) : (t.relabel f).head = t.head := by
  cases t <;> rfl

/-- How the elements of several trees look, each element before those below it. -/
def heads (ts : List (Tree ι)) : List Head :=
  ((nodesOf ts).filter isElement).map head

/-- Other labels leave the heads of several trees as they are. -/
lemma heads_relabel (f : ι → κ) (ts : List (Tree ι)) :
    heads (ts.map (relabel f)) = heads ts := by
  have hnodes : nodesOf (ts.map (relabel f)) = (nodesOf ts).map (relabel f) := by
    rw [nodesOf_eq_flatMap, nodesOf_eq_flatMap, List.map_flatMap, List.flatMap_map]
    exact List.flatMap_congr fun t _ => nodes_relabel f t
  simp [heads, hnodes, List.filter_map, Function.comp_def]

end Tree

/-- A tree without labels has as many labels that say nothing. -/
lemma Stocked.labels_bare {ι : Type} (t : Stocked ι) :
    t.bare.labels = t.labels.map fun _ => () := by
  induction t using Stocked.induct with
  | element label head stock children hs hc =>
    simp only [bare_element, labels_element, List.map_cons, List.map_append, List.map_flatMap,
      List.flatMap_map]
    rw [List.flatMap_congr hs, List.flatMap_congr hc]
  | text label content => rfl

namespace Template.Presents

/-- A document that was just read presents what its markup holds. -/
lemma of_parse {markup : String} (h : Document.parse markup = .ok d) :
    ∃ trees, Markup.parse markup = .ok trees ∧
      (Template.ofRoot Document.root).Presents d (Element.ofTrees trees) := by
  obtain ⟨trees, hparse, rfl⟩ := Document.parse_eq_ok.1 h
  refine ⟨trees, hparse, rfl, ?_⟩
  let content : List (Tree (Option Unit)) := trees.map (·.relabel some)
  let planted := (Supply.plantAll (Supply.take {}).2 content).1
  have hsound := Supply.Sound.plant .empty (.element none "#document" [] false content)
  have hbare := Supply.plantAll_bare (Supply.take {}).2 content
  let Q : Element NodeId := ⟨⟨"#document", [], false⟩, [], planted.map Stocked.ofTree⟩
  have htree : (Q.labelled Document.root).tree =
      (Supply.plant {} (.element none "#document" [] false content)).1 := by
    rw [Element.labelled, Stocked.tree_element, Stocked.map_tree_ofTree]
    rfl
  have hroots : (Q.labelled Document.root).roots = [] := by
    simp [Q, Element.labelled]
  have hentries : (Q.labelled Document.root).entries = [] := by
    simp [Q, Element.labelled, ownEntries, storedOf]
  refine ⟨Q, ?_, ?_, ?_, rfl, rfl⟩
  · have hplanted : planted.map Tree.bare = trees := by
      simp only [Stocked.relabelAll_eq_map, content, List.map_map, Function.comp_def,
        Tree.relabel_relabel] at hbare
      exact hbare.trans ((List.map_congr_left fun t _ => Stocked.bare_unit t).trans
        (List.map_id _))
    simp only [Q, Element.bare, Element.ofTrees, List.map_nil, List.map_map, Function.comp_def,
      Stocked.bare_ofTree, ← hplanted]
  · simp only [Frame.alone, Place.start, Tree.Context.plug, htree, hroots]
    exact ⟨.refl _, hsound.perm (by simp)⟩
  · simp only [Frame.alone, Place.start, hentries]
    exact .refl _

variable (h : t.Presents d P)
include h

/-- The document node is found, and looks as it is presented. -/
lemma find? : ∃ Q : Element NodeId, Q.bare = P ∧
    d.find? Document.root = some (Q.labelled Document.root).tree := by
  obtain ⟨-, Q, hQ, hholds⟩ := h
  exact ⟨Q, hQ, hholds.find?⟩

/-- The markup of a document is that of the nodes below the document node. -/
lemma markup : d.markup = Tree.markups (P.children.map Stocked.tree) := by
  obtain ⟨Q, rfl, hfind⟩ := h.find?
  rw [Document.markup, hfind, Element.labelled, Stocked.tree_element]
  simp only [Option.map_some, Option.getD_some, Tree.children, Element.bare, List.map_map,
    Function.comp_def, Stocked.tree_bare]
  have hrelabel := Tree.markups_relabelAll (fun _ => ()) (Q.children.map Stocked.tree)
  rw [Stocked.relabelAll_eq_map, List.map_map] at hrelabel
  exact hrelabel.symm

/-- How the elements of a document look. -/
lemma heads : d.elements.map Tree.head = Tree.heads (P.children.map Stocked.tree) := by
  obtain ⟨Q, rfl, hfind⟩ := h.find?
  have hheads := Tree.heads_relabel (fun _ => ()) (Q.children.map Stocked.tree)
  rw [Document.elements, Document.attached, hfind, Element.labelled, Stocked.tree_element]
  simp only [Option.map_some, Option.getD_some, Tree.nodes, List.drop_one, List.tail_cons]
  rw [← Tree.heads, ← hheads]
  simp only [Element.bare, List.map_map, Function.comp_def, Stocked.tree_bare]
  rfl

/-- Which elements of a document are hidden. -/
lemma hidden : d.elements.map Tree.isHidden =
    (Tree.heads (P.children.map Stocked.tree)).map Head.hidden := by
  rw [← h.heads, List.map_map]
  rfl

/-- The number of nodes of a document, templates included. -/
lemma nodeCount : d.nodeCount = P.whole.labels.length := by
  obtain ⟨-, Q, rfl, hholds⟩ := h
  have hsound := hholds.document.sound.inUse
  have hlabels := (Stocked.labels_perm (Q.labelled Document.root)).length_eq
  rw [← Element.bare_labelled Q Document.root, Stocked.labels_bare, List.length_map, hlabels]
  simpa [Document.nodeCount, Frame.alone, Tree.Context.plug, Place.start] using hsound

/-- What becomes of a template and its document where a walk follows a local action. -/
lemma run {walk : Walk Unit} {act : Local (Element Unit) Unit}
    (hwalk : ∀ {s : Walk.State} {Q : Element NodeId}, Q.bare = P → Holds s .start .alone Q →
      Reaches s (Shows .start .alone) (walk s) (act Q.bare)) :
    (t.run d walk).result = ((act P).result.map fun _ => (act P).notes).mapError Stop.fault ∧
      (t.run d walk).template.Presents (t.run d walk).document (act P).state := by
  obtain ⟨hroot, Q, rfl, hholds⟩ := h
  have hreaches := hwalk rfl hholds
  have hresult : (t.run d walk).result =
      (walk { document := d, stash := t.stash }).1.map fun _ =>
        (walk { document := d, stash := t.stash }).2.diagnostics := rfl
  obtain ⟨R, hR, hleft⟩ := hreaches.shows
  refine ⟨?_, hroot, R, hR, hleft.document, hleft.stash, rfl, rfl⟩
  rw [hresult, hreaches.result, hreaches.diagnostics]
  cases (act Q.bare).result <;> rfl

/-- Injection follows the local action for it. -/
lemma inject {m : Value} (hm : m.isNull = false) (hentered : Entered e.dialect P.whole) :
    (t.inject e d m).result =
        ((Local.inject ⟨e, m⟩ e.maxDepth 0 [] m false P).result.map fun _ =>
          (Local.inject ⟨e, m⟩ e.maxDepth 0 [] m false P).notes).mapError Stop.fault ∧
      (t.inject e d m).template.Presents (t.inject e d m).document
        (Local.inject ⟨e, m⟩ e.maxDepth 0 [] m false P).state := by
  have hrun : t.inject e d m =
      t.run d (Setting.inject ⟨e, m⟩ e.maxDepth Document.root m false) := by
    simp only [Template.inject, hm, h.1, Bool.false_eq_true, if_false]
  rw [hrun]
  exact h.run fun hQ hholds => inject_follows ⟨e, m⟩ e.maxDepth 0 m false rfl
    (hQ ▸ hentered) hholds

/-- Reset follows the local action for it. -/
lemma reset (hentered : Entered e.dialect P.whole) :
    (t.reset e d).result = ((Local.reset e.dialect e.maxDepth 0 P).result.map fun _ =>
        (Local.reset e.dialect e.maxDepth 0 P).notes).mapError Stop.fault ∧
      (t.reset e d).template.Presents (t.reset e d).document
        (Local.reset e.dialect e.maxDepth 0 P).state := by
  have hrun : t.reset e d = t.run d (Walk.reset e.dialect e.maxDepth Document.root) := by
    simp only [Template.reset, Template.resetElement, h.1]
  rw [hrun]
  exact h.run fun hQ hholds => reset_follows e.maxDepth 0 rfl (hQ ▸ hentered) hholds

end Template.Presents

end TreeTemplate
