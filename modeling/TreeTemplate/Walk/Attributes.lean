import TreeTemplate.Clause
import TreeTemplate.Condition
import TreeTemplate.Walk.Policy
import TreeTemplate.Walk.Setting
import TreeTemplate.Walk.Templates

/-!
# Operators that set attributes

Setting attributes and classes of elements from a scope, and removing again what was set. Null
removes an attribute.

Main statements:

* `AttributeOperator.execute_of_ok` — an operator that succeeds leaves what it set.
-/

namespace TreeTemplate

/-- The elements that have a source. -/
def sourceTags : List String :=
  ["iframe", "script", "img", "input", "textarea", "video", "audio"]

/-- The elements that have a value. -/
def valueTags : List String :=
  ["input", "option", "button", "param", "meter", "progress", "data"]

/-- The text of an attribute that is set to a value; there is none if it is removed. The value is a
string, and a number for an `id`. -/
def attributeText? (name : String) (value : Value) : Except Cause (Option String) :=
  match value with
  | .null => .ok none
  | .string s => .ok (some s)
  | .integer _ | .float _ =>
    if name = "id" then .ok value.text? else .error (.attributeKind name value.kind)
  | .bool _ | .list _ | .map _ => .error (.attributeKind name value.kind)

/-- A class that a value names: capitals with underscores become small letters with hyphens, and
before every other capital letter stands a hyphen. -/
def classOf (name : String) : String :=
  String.ofList (Text.className name.toList)

namespace AttributeOperator

/-- Sets the attribute that a clause names to the value at its path. Where the path fails the
attribute is removed. -/
def setClause (c : Setting) (n : NodeId) (scope : Value) (operand : String) (clause : Clause) :
    Walk Unit :=
  match clause.value? with
  | none =>
    let stop := clause.start + Text.bytes clause.name.toList
    Walk.refuse (.malformed ⟨.expectedNamedPath, operand, ⟨clause.start, stop⟩⟩)
  | some path =>
    match (Path.read c.model scope path).bind (attributeText? clause.name) with
    | .ok text? => Walk.putAttribute n clause.name text?
    | .error cause => do
      Walk.putAttribute n clause.name none
      Walk.recover n (.attr .attributes) operand cause

/-- Adds or removes a class. -/
def toggle (n : NodeId) (name : String) (on : Bool) : Walk Unit :=
  Walk.editNode n (if on then Tree.addClass name else Tree.removeClass name)

/-- Adds the class of a clause where the condition before its colon holds, and removes it
otherwise. -/
def toggleClause (c : Setting) (n : NodeId) (scope : Value) (operand : String) (clause : Clause)
    (name : String) : Walk Unit := do
  let condition ← Walk.checkOperand
    (Condition.parseAt operand clause.start clause.name.toList)
  let (on, lacking) ← Walk.check (condition.holds c.model scope)
  lacking.forM (Walk.recover n (.attr .classes) operand)
  toggle n name on

/-- Adds the class that the value at the path of a clause names, or removes it if there is an
exclamation mark before the path. -/
def nameClause (c : Setting) (n : NodeId) (scope : Value) (operand : String) (clause : Clause) :
    Walk Unit :=
  let (on, path) :=
    match clause.name.toList with
    | '!' :: path => (false, String.ofList path)
    | _ => (true, clause.name)
  match Path.read c.model scope path with
  | .error cause => Walk.recover n (.attr .classes) operand cause
  | .ok .null => pure ()
  | .ok (.string name) => toggle n (classOf name) on
  | .ok found => Walk.refuse (.classKind path found.kind)

/-- Adds and removes the classes of a clause. -/
def classClause (c : Setting) (n : NodeId) (scope : Value) (operand : String) (clause : Clause) :
    Walk Unit :=
  match clause.value? with
  | some name => toggleClause c n scope operand clause name
  | none => nameClause c n scope operand clause

/-- Sets an attribute that has an operator of its own. -/
def setNamed (c : Setting) (n : NodeId) (scope : Value) (operand : String)
    (which : NamedAttribute) : Walk Unit := do
  let t ← Walk.node n
  if which = .src && !t.hasTag sourceTags then
    Walk.refuse (.unsupported (.attr (.named which)) t.describe)
  else
    let value ← c.read scope operand
    Walk.putAttribute n which.name (← Walk.check (attributeText? which.name value))

/-- Removes the value of a form control, and the text of any other element. -/
def removeValue (n : NodeId) : Walk Unit := do
  if (← Walk.node n).hasTag valueTags then Walk.putAttribute n "value" none
  else Walk.removeText n

/-- Sets the value of a form control, and the content of any other element. -/
def setValue (c : Setting) (n : NodeId) (scope : Value) (operand : String) : Walk Unit := do
  let value ← c.read scope operand
  if value.isNull then removeValue n
  else
    let t ← Walk.node n
    let text ← Walk.check (c.display t value)
    if t.hasTag valueTags then Walk.putAttribute n "value" (some text)
    else Walk.fillText n text

/-- Sets what an operator sets. -/
def run (c : Setting) (n : NodeId) (scope : Value) (operand : String) :
    AttributeOperator → Walk Unit
  | attributes => do (← Walk.check (Clause.parse operand)).forM (setClause c n scope operand)
  | classes => do (← Walk.check (Clause.parse operand)).forM (classClause c n scope operand)
  | named which => setNamed c n scope operand which
  | value => setValue c n scope operand

/-- Removes what an operator sets. -/
def undo (n : NodeId) (operand : String) : AttributeOperator → Walk Unit
  | attributes => do
    (← Walk.check (Clause.parse operand)).forM fun clause => Walk.putAttribute n clause.name none
  | classes => do
    (← Walk.check (Clause.parse operand)).forM fun clause =>
      match clause.value? with
      | some name => toggle n name false
      | none => pure ()
  | named which => Walk.putAttribute n which.name none
  | value => removeValue n

/-- Runs an operator under the policy for faults; the element goes on in any case. -/
def execute (c : Setting) (n : NodeId) (scope : Value) (operand : String)
    (operator : AttributeOperator) : Walk Unit :=
  Walk.guarded n (.attr operator) operand (operator.undo n operand) () ()
    (operator.run c n scope operand)

/-- An operator that succeeds leaves what it set. -/
theorem execute_of_ok {c : Setting} {n : NodeId} {scope : Value} {operand : String}
    {operator : AttributeOperator} {s t : Walk.State}
    (h : operator.run c n scope operand s = (.ok (), t)) :
    operator.execute c n scope operand s = (.ok (), t) :=
  Walk.guarded_of_ok h

end AttributeOperator

end TreeTemplate
