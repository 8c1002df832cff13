import TreeTemplate.Proofs.Courses.Taking
import TreeTemplate.Proofs.Courses.Walks

/-!
# Kinds of walks that do not watch the document

Some kinds of walks are about what a walk records or about where it is, and not about the document
and the stash. Whatever edits these belongs to such a kind.

Main statements:

* `ClosedUnderEdits.taking` — nodes are taken away;
* `ClosedUnderEdits.filling` — an element is filled.
-/

namespace TreeTemplate.Walk

variable {Q : (α : Type) → Walk α → Prop} {R : State → State → Prop}

/-- A closed kind that holds whatever edits the document and the stash. -/
structure ClosedUnderEdits (Q : (α : Type) → Walk α → Prop) : Prop extends Closed Q where
  setDocument : ∀ d, Q Unit (modify fun s => { s with document := d })
  setStash : ∀ f : Stash → Stash, Q Unit (modify fun s => { s with stash := f s.stash })

/-- The walks that run a course for which neither the document nor the stash counts. -/
lemma Course.closedUnderEdits (hR : Course R)
    (h : ∀ (s : State) (d : Document) (stash : Stash), R s
      { s with document := d, stash := stash }) :
    ClosedUnderEdits (Runs R) where
  toClosed := hR.closed
  setDocument d s := h s d s.stash
  setStash f s := h s s.document (f s.stash)

namespace ClosedUnderEdits

variable (hQ : ClosedUnderEdits Q)
include hQ

/-- Editing the document is of the kind. -/
lemma edit (n : NodeId) (f : NodeId → Document → Option Document) : Q _ (Walk.edit n f) := by
  refine hQ.bind hQ.get fun s => ?_
  cases f n s.document with
  | none => exact hQ.throw _
  | some d => exact hQ.setDocument d

/-- Putting a copy below an element is of the kind. -/
lemma appendCopy (parent template : NodeId) : Q _ (Walk.appendCopy parent template) := by
  refine hQ.bind hQ.get fun s => ?_
  cases s.document.clone? template true with
  | none => exact hQ.throw _
  | some copied =>
    exact hQ.bind (hQ.setDocument _) fun _ => hQ.bind (hQ.edit _ _) fun _ => hQ.pure _

/-- Whatever takes nodes away edits the document and the stash. -/
lemma taking : Taking Q where
  pure := hQ.pure
  bind := hQ.bind
  get := hQ.get
  missing _ := hQ.throw _
  refuse _ _ := hQ.refuse _
  setStash := hQ.setStash
  detach n := hQ.edit n _
  remove n := hQ.edit n _

/-! ## Content -/

/-- Filling in markup is of the kind. -/
lemma fillMarkup (n : NodeId) (markup : String) : Q _ (ContentOperator.fillMarkup n markup) := by
  refine hQ.bind hQ.get fun s => ?_
  cases s.document.setMarkup? n markup with
  | none => exact hQ.throw _
  | some left =>
    obtain ⟨d, fault?⟩ := left
    refine hQ.bind (hQ.setDocument d) fun _ => ?_
    cases fault? with
    | none => exact hQ.pure ()
    | some fault => exact hQ.refuse _

/-- Appending an option is of the kind. -/
lemma appendOption (n : NodeId) (item : Value) : Q _ (ContentOperator.appendOption n item) := by
  unfold ContentOperator.appendOption
  cases item.text? with
  | none => exact hQ.refuse _
  | some shown =>
    exact hQ.bind hQ.get fun _ =>
      hQ.bind (hQ.setDocument _) fun _ => hQ.edit _ _

/-- Whatever fills an element is of the kind. -/
lemma filling (n : NodeId) : Filling Q n where
  toClosedAt := hQ.toClosed.element n
  restyle _ _ := hQ.edit n _
  removeText := hQ.edit n _
  fillText _ := hQ.bind (hQ.taking.forgetBelow n) fun _ => hQ.edit n _
  setText _ := hQ.edit n _
  forgetBelow := hQ.taking.forgetBelow n
  clear := hQ.taking.clear (hQ.edit n _)
  fillMarkup := hQ.fillMarkup n
  itemTemplate := hQ.taking.itemTemplate n
  entryTemplates := hQ.taking.entryTemplates n
  appendOption := hQ.appendOption n

end ClosedUnderEdits

end TreeTemplate.Walk
