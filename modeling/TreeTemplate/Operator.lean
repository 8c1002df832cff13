import TreeTemplate.Text.Pieces

/-!
# Operators

What a directive of an element can ask for. An operator follows a jump, decides whether the element
is shown, fills its content, or sets its attributes; an element has at most one operator of each of
the first three groups and any number of the last.

A directive is an attribute whose name is a marker and the name of an operator. The dialect of a
template is its marker.

Main statements:

* `Operator.ofName?_name` — every operator is found under its own name.
-/

namespace TreeTemplate

/-- The attributes that have an operator of their own. -/
inductive NamedAttribute where
  | id
  | src
  | href
  | title
deriving Repr, DecidableEq

/-- The operators that set attributes. -/
inductive AttributeOperator where
  /-- Sets the attributes that its clauses name. -/
  | attributes
  /-- Adds and removes classes. -/
  | classes
  | named (which : NamedAttribute)
  /-- Sets the value of a form control, and the text of any other element. -/
  | value
deriving Repr, DecidableEq

/-- The operators that decide whether an element is shown. -/
inductive ConditionalOperator where
  | condition
  | exclude
deriving Repr, DecidableEq

/-- The operators that fill the content of an element. -/
inductive ContentOperator where
  | text
  | html
  | object
  | list (ordered : Bool)
  | map (ordered : Bool)
  | numbering
  | options
deriving Repr, DecidableEq

/-- An operator. -/
inductive Operator where
  | jump
  | conditional (operator : ConditionalOperator)
  | content (operator : ContentOperator)
  | attr (operator : AttributeOperator)
deriving Repr, DecidableEq

/-- The name of an attribute with an operator of its own. -/
def NamedAttribute.name : NamedAttribute → String
  | id => "id"
  | src => "src"
  | href => "href"
  | title => "title"

/-- The name of an operator that sets attributes. -/
def AttributeOperator.name : AttributeOperator → String
  | attributes => "attr"
  | classes => "css-class"
  | named which => which.name
  | value => "value"

/-- The name of an operator that decides whether an element is shown. -/
def ConditionalOperator.name : ConditionalOperator → String
  | condition => "if"
  | exclude => "exclude"

/-- The name of an operator that fills content. -/
def ContentOperator.name : ContentOperator → String
  | text => "text"
  | html => "html"
  | object => "object"
  | list ordered => if ordered then "olist" else "list"
  | map ordered => if ordered then "omap" else "map"
  | numbering => "numbering"
  | options => "options"

/-- The name of an operator. -/
def Operator.name : Operator → String
  | jump => "goto"
  | conditional operator => operator.name
  | content operator => operator.name
  | attr operator => operator.name

/-- All operators. -/
def Operator.all : List Operator :=
  [.attr .attributes, .attr .classes, .attr (.named .id), .attr (.named .src),
   .attr (.named .href), .attr (.named .title), .attr .value, .content .text,
   .content .html, .content .object, .content (.list false), .content (.list true),
   .content (.map false), .content (.map true), .content .numbering, .content .options,
   .conditional .condition, .conditional .exclude, .jump]

/-- A name in capitals, with underscores for hyphens. -/
def capitalName (name : String) : List Char :=
  name.toList.map fun c => if c = '-' then '_' else c.toUpper

/-- The operator of a name. Neither the case of ASCII letters nor the difference between hyphens
and underscores counts. -/
def Operator.ofName? (name : String) : Option Operator :=
  Operator.all.find? fun operator => capitalName operator.name == capitalName name

/-- Every operator is found under its own name. -/
theorem Operator.ofName?_name (operator : Operator) :
    Operator.ofName? operator.name = some operator := by
  rcases operator with _ | (_ | _) | (_ | _ | _ | (_ | _) | (_ | _) | _ | _) |
    (_ | _ | (_ | _ | _ | _) | _) <;> decide +kernel

/-- How directives are marked. -/
structure Dialect where
  /-- What the name of a directive begins with. -/
  marker : String
  marker_ne : marker ≠ "" := by decide

namespace Dialect

/-- Directives are marked by `data-` unless something else is chosen. -/
def standard : Dialect where
  marker := "data-"

/-- The standard dialect, where none is given. -/
instance : Inhabited Dialect := ⟨standard⟩

/-- The dialect with a marker, which must not be empty. -/
def ofMarker? (marker : String) : Option Dialect :=
  if h : marker = "" then none else some ⟨marker, h⟩

/-- The attribute that names the formatter of an element. -/
def formatAttribute (d : Dialect) : String :=
  d.marker ++ "format"

/-- The attribute that declares an operator. -/
def attributeName (d : Dialect) (operator : Operator) : String :=
  d.marker ++ operator.name

/-- The operator that an attribute declares, if it is a directive. -/
def operator? (d : Dialect) (name : String) : Option Operator :=
  (Text.afterPrefix? d.marker.toList name.toList).bind fun name =>
    Operator.ofName? (String.ofList name)

end Dialect

end TreeTemplate
