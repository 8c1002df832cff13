import TreeTemplate.Datum
import TreeTemplate.Walk.Inject
import TreeTemplate.Walk.Reset

/-!
# Templates

A template is bound to an element of a document. It keeps the templates of items and entries that
were taken out of lists and maps, so the same document can be injected again with another model.

Main statements:

* `inject_null` — null is no model;
* `injectDatum_of_ok` — data is injected as the value it describes.
-/

namespace TreeTemplate

/-- A template bound to an element. -/
structure Template where
  root : NodeId
  stash : Stash := {}
deriving Repr, DecidableEq

/-- What an operation of a template leads to. -/
structure Outcome (α : Type) where
  result : Except Stop α
  document : Document
  template : Template
  /-- The faults that were reported on the way, in order. -/
  reported : List Fault

namespace Template

/-- A template for an element that has nothing stashed yet. -/
def ofRoot (root : NodeId) : Template where
  root

/-- The result of an operation that did nothing. -/
def unchanged {α : Type} (t : Template) (d : Document) (result : Except Stop α) : Outcome α :=
  ⟨result, d, t, []⟩

/-- Runs a walk on the document of a template. The result is what was recorded on the way. -/
def run (t : Template) (d : Document) (walk : Walk Unit) : Outcome (List Fault) :=
  let (result, s) := walk { document := d, stash := t.stash }
  ⟨result.map fun _ => s.diagnostics, s.document, { t with stash := s.stash }, s.reported⟩

/-- Brings an element and everything below it back to what its directives declare. -/
def resetElement (t : Template) (e : Engine) (d : Document) (n : NodeId) :
    Outcome (List Fault) :=
  t.run d (Walk.reset e.dialect e.maxDepth n)

/-- Brings everything below the element of a template back to what the directives declare. -/
def reset (t : Template) (e : Engine) (d : Document) : Outcome (List Fault) :=
  t.resetElement e d t.root

/-- Injects a model. -/
def inject (t : Template) (e : Engine) (d : Document) (model : Value) : Outcome (List Fault) :=
  if model.isNull then t.unchanged d (.error (.fault ⟨.nullModel, none⟩))
  else t.run d (Setting.inject ⟨e, model⟩ e.maxDepth t.root model false)

/-- Injects the value that data describes. -/
def injectDatum (t : Template) (e : Engine) (d : Document) (datum : Datum) :
    Outcome (List Fault) :=
  match datum.toValue with
  | .ok model => t.inject e d model
  | .error cause => t.unchanged d (.error (.fault ⟨cause, none⟩))

/-- Injects a value into an element and everything below it; null resets the element. -/
def injectElement (t : Template) (e : Engine) (d : Document) (n : NodeId) (value : Value) :
    Outcome (List Fault) :=
  if value.isNull then t.resetElement e d n
  else t.run d (Setting.injectSubtree ⟨e, value⟩ e.maxDepth n value)

/-- A description of a template for people. -/
def debugText (t : Template) (e : Engine) : String :=
  "Template \x7b engine: " ++ e.debugText ++ ", root: NodeId(" ++ toString t.root.index
    ++ "), .. \x7d"

/-- Null is no model. -/
theorem inject_null (t : Template) (e : Engine) (d : Document) :
    t.inject e d .null = t.unchanged d (.error (.fault ⟨.nullModel, none⟩)) :=
  rfl

/-- Data is injected as the value it describes. -/
theorem injectDatum_of_ok {datum : Datum} {model : Value} (h : datum.toValue = .ok model)
    (t : Template) (e : Engine) (d : Document) : t.injectDatum e d datum = t.inject e d model := by
  simp only [injectDatum, h]

end Template

end TreeTemplate
