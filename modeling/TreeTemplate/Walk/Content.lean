import TreeTemplate.Numbering
import TreeTemplate.Walk.Policy
import TreeTemplate.Walk.Setting
import TreeTemplate.Walk.Templates

/-!
# Operators that fill elements

Filling the content of an element from a scope, and clearing it again. Under a null scope content is
cleared and the model is not read. A list is filled with a copy of its template for each item, a map
with a copy of both its templates for each entry; an operator is given the walk that goes through
the copies.

The result of an operator is the scope for the elements below, if they are still to be walked.
-/

namespace TreeTemplate

/-- A walk through an element in a scope. The last argument says whether the element is a copy made
for an item or an entry. -/
abbrev ElementWalk := NodeId → Value → Bool → Walk Unit

namespace ContentOperator

/-- Fills an element without elements below it with text. Null and the empty string leave it
without. -/
def runText (c : Setting) (n : NodeId) (scope : Value) (operand : String) : Walk Unit := do
  if scope.isNull then Walk.removeText n
  else
    let t ← Walk.node n
    if !t.elements.isEmpty then Walk.refuse (.textAroundElements t.describe)
    else
      match ← c.read scope operand with
      | .null => Walk.removeText n
      | .string "" => Walk.removeText n
      | value => do
        let shown ← Walk.check (c.display t value)
        Walk.edit n fun n d => d.setText? n shown

/-- Fills an element with markup. Where the markup is not accepted the element is left empty. -/
def fillMarkup (n : NodeId) (markup : String) : Walk Unit := do
  match (← get).document.setMarkup? n markup with
  | none => throw (.missing n)
  | some (d, fault?) => do
    modify fun s => { s with document := d }
    match fault? with
    | none => pure ()
    | some fault => Walk.refuse (.markup fault)

/-- Fills an element with the markup that a string holds. -/
def runHtml (c : Setting) (n : NodeId) (scope : Value) (operand : String) : Walk Unit := do
  if scope.isNull then Walk.clear n
  else
    match ← c.read scope operand with
    | .null => Walk.clear n
    | .string markup => do
      Walk.forgetBelow n
      fillMarkup n markup
    | value => Walk.refuse (.htmlKind value.kind)

/-- The scope that an operand opens for the elements below. -/
def runObject (c : Setting) (scope : Value) (operand : String) : Walk Value := do
  if scope.isNull then return .null
  else
    let value ← c.read scope operand
    if value.isNull || operand = "." || value.isComposite then return value
    else Walk.refuse (.expectedComposite operand value.kind)

/-- Fills an element with a copy of its template for each item of a list. -/
def runList (c : Setting) (walk : ElementWalk) (n : NodeId) (scope : Value) (operand : String)
    (ordered : Bool) : Walk Unit := do
  let template ← Walk.itemTemplate n
  Walk.clear n
  if scope.isNull then pure ()
  else
    let items ← Walk.check (Path.readItems c.model scope operand)
    Walk.counting ordered <| items.forM fun item => do
      Walk.advance ordered
      let copy ← Walk.appendCopy n template
      walk copy item true

/-- Fills an element with copies of its two templates for each entry of a map. -/
def runMap (c : Setting) (walk : ElementWalk) (n : NodeId) (scope : Value) (operand : String)
    (ordered : Bool) : Walk Unit := do
  let (keyTemplate, valueTemplate) ← Walk.entryTemplates n
  Walk.clear n
  if scope.isNull then pure ()
  else
    let entries ← Walk.check (Path.readEntries c.model scope operand)
    Walk.counting ordered <| entries.forM fun (key, value) => do
      Walk.advance ordered
      let keyCopy ← Walk.appendCopy n keyTemplate
      let valueCopy ← Walk.appendCopy n valueTemplate
      walk keyCopy (.string key) true
      walk valueCopy value true

/-- Fills an element with the label of the position that the walk has reached. The scope does not
count. -/
def runNumbering (n : NodeId) (operand : String) : Walk Unit := do
  let format ← Walk.checkOperand (Numbering.parse operand)
  let label ← Walk.check (format.label (← get).positions)
  Walk.fillText n label

/-- Puts an option behind those of an element. -/
def appendOption (n : NodeId) (item : Value) : Walk Unit := do
  match item.text? with
  | none => Walk.refuse (.optionKind item.kind)
  | some shown => do
    let (option, d) := (← get).document.plant
      (.element () "option" [("value", shown)] false [.text () shown])
    modify fun s => { s with document := d }
    Walk.edit n fun n d => d.append? n option

/-- Fills a selection with an option for each item of a list. -/
def runOptions (c : Setting) (n : NodeId) (scope : Value) (operand : String) : Walk Unit := do
  let t ← Walk.node n
  if !t.hasTag ["select"] then Walk.refuse (.unsupported (.content .options) t.describe)
  else if scope.isNull then Walk.clear n
  else
    match ← c.read scope operand with
    | .null => Walk.clear n
    | .list items => do
      Walk.clear n
      items.forM (appendOption n)
    | value => Walk.refuse (.optionsKind value.kind)

/-- Fills an element. -/
def run (c : Setting) (walk : ElementWalk) (n : NodeId) (scope : Value) (operand : String)
    (operator : ContentOperator) : Walk (Option Value) := do
  match operator with
  | text => runText c n scope operand
  | html => runHtml c n scope operand
  | object => return some (← runObject c scope operand)
  | list ordered => runList c walk n scope operand ordered
  | map ordered => runMap c walk n scope operand ordered
  | numbering => runNumbering n operand
  | options => runOptions c n scope operand
  return none

/-- Removes what an operator fills in. -/
def undo (n : NodeId) : ContentOperator → Walk Unit
  | text | numbering => Walk.removeText n
  | html | options => Walk.clear n
  | object => pure ()
  | list _ => do
    let _ ← Walk.itemTemplate n
    Walk.clear n
  | map _ => do
    let _ ← Walk.entryTemplates n
    Walk.clear n

/-- The scope for the elements below where the model lacks what an operator reads. -/
def fallback : ContentOperator → Option Value
  | object => some .null
  | _ => none

/-- Runs an operator under the policy for faults. -/
def execute (c : Setting) (walk : ElementWalk) (n : NodeId) (scope : Value) (operand : String)
    (operator : ContentOperator) : Walk (Option Value) :=
  Walk.guarded n (.content operator) operand (operator.undo n) operator.fallback none
    (operator.run c walk n scope operand)

end ContentOperator

end TreeTemplate
