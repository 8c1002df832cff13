import TreeTemplate.Engine
import TreeTemplate.Path
import TreeTemplate.Walk.Basic

/-!
# Settings of walks

What a walk reads and does not change: the engine, and the model at whose root absolute paths
begin.
-/

namespace TreeTemplate

/-- What a walk reads. -/
structure Setting where
  engine : Engine
  model : Value

namespace Setting

/-- The value that an operand names in a scope. -/
def read (c : Setting) (scope : Value) (operand : String) : Walk Value :=
  Walk.check (Path.read c.model scope operand)

/-- The text that an element displays for a value: what the formatter makes of it that the element
names, or else the text of a scalar. -/
def display {ι : Type} (c : Setting) (t : Tree ι) (value : Value) : Except Cause String :=
  match t.attr? c.engine.dialect.formatAttribute with
  | some name =>
    match c.engine.formatter? name with
    | none => .error (.unknownFormat name)
    | some f =>
      match f.format value with
      | .ok text => .ok text
      | .error message => .error (.custom message)
  | none =>
    match value.text? with
    | some text => .ok text
    | none => .error (.undisplayable value.kind)

end Setting

/-- Whether the tag of an element is one of the given ones; the case of ASCII letters does not
count. -/
def Tree.hasTag {ι : Type} (t : Tree ι) (tags : List String) : Bool :=
  tags.any fun tag => tag.map Char.toLower == t.tag.map Char.toLower

end TreeTemplate
