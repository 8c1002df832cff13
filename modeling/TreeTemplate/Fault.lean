import TreeTemplate.Markup.Fault
import TreeTemplate.Operator
import TreeTemplate.Text.Columns
import TreeTemplate.Text.Pieces
import TreeTemplate.Value

/-!
# Faults

What can go wrong when a model is injected into a tree. A cause belongs to one of three classes: a
binding that the model does not satisfy, a template that is written wrongly, or anything else. The
class decides what becomes of the walk. A fault that arises in an operator also says which operator
of which element it was.

Main statements:

* `Fault.inOperator_idem` — the innermost operator is the one that is named.
-/

namespace TreeTemplate

/-- The classes of faults. -/
inductive FaultClass where
  /-- The model lacks what a binding reads. The walk goes on. -/
  | content
  /-- The template is written wrongly. The walk is given up. -/
  | assertion
  /-- Anything else, such as a formatter that fails. The branch is given up. -/
  | other
deriving Repr, DecidableEq

/-- The name of a class. -/
def FaultClass.name : FaultClass → String
  | content => "Content"
  | assertion => "Assertion"
  | other => "Other"

/-- A region of an operand, in bytes: from `start` up to `stop`. -/
structure Span where
  start : Nat
  stop : Nat
deriving Repr, DecidableEq

/-- What is wrong at a place of an operand. -/
inductive OperandFault where
  | emptySegment
  | invalidPathCharacter
  | expectedPath
  | missingLiteral
  | expectedNumber
  | expectedComparison
  | emptyClause
  | emptyName
  | emptyValue
  | expectedNamedPath
  | missingCode
  | unknownCode
deriving Repr, DecidableEq

/-- A place of an operand where something is wrong. -/
structure OperandError where
  fault : OperandFault
  operand : String
  span : Span
deriving Repr, DecidableEq

/-- What went wrong. -/
inductive Cause where
  -- what the model lacks
  | undefinedProperty (name : String)
  | indexOutOfRange (index length : Nat)
  | undefinedOnList (name : String)
  | unreadableProperty (name : String) (found : Value.Kind)
  | expectedList (operand : String) (found : Value.Kind)
  | expectedMap (operand : String) (found : Value.Kind)
  | expectedComposite (operand : String) (found : Value.Kind)
  -- what is wrong with the template
  | malformed (error : OperandError)
  | emptyOperand
  | scalarScope (path : String) (found : Value.Kind)
  | tooDeep (limit : Nat) (element : String)
  | noSubtree (operator : ContentOperator) (element : String)
  | conflict (element first second : String)
  | unsupported (operator : Operator) (element : String)
  | textAroundElements (element : String)
  | attributeKind (name : String) (found : Value.Kind)
  | classKind (path : String) (found : Value.Kind)
  | htmlKind (found : Value.Kind)
  | optionsKind (found : Value.Kind)
  | optionKind (found : Value.Kind)
  | undisplayable (found : Value.Kind)
  | unknownFormat (name : String)
  | missingItem (element : String)
  | missingKey (element : String)
  | missingValue (element : String)
  | holdsEntryTemplates
  | holdsItemTemplate
  | nullModel
  -- the rest
  | numberingOutside
  | numberingTooDeep (placeholders depth : Nat)
  | markup (fault : Markup.Fault)
  | integerOutOfRange
  | keyNotText
  | valueWithoutKey
  | wideInteger (signed : Bool)
  | custom (message : String)
deriving Repr, DecidableEq

/-- The words for what is wrong at a place of an operand. -/
def OperandFault.message : OperandFault → String
  | emptySegment => "empty property path segment"
  | invalidPathCharacter => "invalid character in property path"
  | expectedPath => "expected property path"
  | missingLiteral => "missing operand"
  | expectedNumber => "expected a number"
  | expectedComparison => "expected one of `=`, `<`, `>` or `;`"
  | emptyClause => "empty clause"
  | emptyName => "empty name"
  | emptyValue => "empty value"
  | expectedNamedPath => "expected `name:path`"
  | missingCode => "missing numbering code"
  | unknownCode => "invalid numbering code, expected one of `n`, `s`, `S`, `i`, `I`"

namespace Cause

/-- The words for a cause. -/
def message : Cause → String
  | undefinedProperty name => s!"undefined property `{name}`"
  | indexOutOfRange index length =>
    s!"index `{index}` is out of range for list of length {length}"
  | undefinedOnList name => s!"undefined property `{name}` on list"
  | unreadableProperty name found => s!"cannot read property `{name}` of {found.name}"
  | expectedList operand found => s!"expected list, but `{operand}` evaluated to {found.name}"
  | expectedMap operand found => s!"expected map, but `{operand}` evaluated to {found.name}"
  | expectedComposite operand found =>
    s!"expected list or map, but `{operand}` evaluated to {found.name}"
  | malformed error => error.fault.message
  | emptyOperand => "empty operand"
  | scalarScope path found =>
    s!"cannot resolve relative path `{path}` against {found.name} scope"
  | tooDeep limit element => s!"maximum walk depth of {limit} exceeded at {element}"
  | noSubtree operator element =>
    s!"operator `{operator.name}` on {element} cannot receive a subtree injection"
  | conflict element first second => s!"{element} declares both `{first}` and `{second}`"
  | unsupported operator element => s!"operator `{operator.name}` is not supported on {element}"
  | textAroundElements element => s!"text operator on {element} which has element children"
  | attributeKind name found => s!"attribute `{name}` requires a string, found {found.name}"
  | classKind path found => s!"class name `{path}` must be a string, found {found.name}"
  | htmlKind found => s!"html operator requires a string, found {found.name}"
  | optionsKind found => s!"options require a list, found {found.name}"
  | optionKind found => s!"option must be a primitive value, found {found.name}"
  | undisplayable found => s!"cannot display {found.name} as text"
  | unknownFormat name => s!"unknown format `{name}`"
  | missingItem element => s!"list element {element} is missing its item template"
  | missingKey element => s!"map element {element} is missing its key template"
  | missingValue element => s!"map element {element} is missing its value template"
  | holdsEntryTemplates => "element holds map templates, not an item template"
  | holdsItemTemplate => "element holds a list template, not map templates"
  | nullModel => "cannot inject a null model"
  | numberingOutside => "numbering requires an enclosing ordered list or map"
  | numberingTooDeep placeholders depth =>
    s!"numbering has {placeholders} placeholders but only {depth} enclosing ordered constructs"
  | markup fault => fault.message
  | integerOutOfRange => "out of range integral type conversion attempted"
  | keyNotText => "map key must be a string"
  | valueWithoutKey => "map value serialized before its key"
  | wideInteger signed => if signed then "i128 is not supported" else "u128 is not supported"
  | custom message => message

/-- The class of a cause. -/
def faultClass : Cause → FaultClass
  | undefinedProperty _ | indexOutOfRange _ _ | undefinedOnList _ | unreadableProperty _ _
  | expectedList _ _ | expectedMap _ _ | expectedComposite _ _ => .content
  | numberingOutside | numberingTooDeep _ _ | markup _ | integerOutOfRange | keyNotText
  | valueWithoutKey | wideInteger _ | custom _ => .other
  | _ => .assertion

/-- The place of an operand that a cause points at. -/
def operandError? : Cause → Option OperandError
  | malformed error => some error
  | _ => none

end Cause

/-- The operator in which a fault arose, the element that declares it, and its operand. -/
structure Site where
  operator : Operator
  element : String
  operand : String
deriving Repr, DecidableEq

/-- A fault: its cause, and the operator in which it arose if it arose in one. -/
structure Fault where
  cause : Cause
  site? : Option Site := none
deriving Repr, DecidableEq

namespace Fault

/-- The class of a fault. -/
def faultClass (f : Fault) : FaultClass :=
  f.cause.faultClass

/-- The words for a fault, without its place. -/
def message (f : Fault) : String :=
  f.cause.message

/-- Says in which operator a fault arose, unless that is known already. -/
def inOperator (f : Fault) (site : Site) : Fault :=
  { f with site? := f.site?.or (some site) }

/-- The innermost operator is the one that is named. -/
theorem inOperator_idem (f : Fault) (inner outer : Site) :
    (f.inOperator inner).inOperator outer = f.inOperator inner := by
  cases h : f.site? <;> simp [inOperator, h]

/-- The words for the operator in which a fault arose. -/
def siteText (f : Fault) : String :=
  match f.site? with
  | some site =>
    s!" (operator `{site.operator.name}` on {site.element} with operand `{site.operand}`)"
  | none => ""

/-- The fault on one line. -/
def text (f : Fault) : String :=
  let what :=
    match f.cause.operandError? with
    | some error =>
      s!"{f.message} between bytes {error.span.start} and {error.span.stop}"
    | none => f.message
  what ++ f.siteText

end Fault

/-- The characters of a text that end within its first `n` bytes. -/
def Text.takeBytes (n : Nat) : List Char → List Char
  | [] => []
  | c :: s => if c.utf8Size ≤ n then c :: takeBytes (n - c.utf8Size) s else []

/-- The characters of a text behind its first `n` bytes. -/
def Text.dropBytes (n : Nat) : List Char → List Char
  | [] => []
  | c :: s => if n = 0 then c :: s else dropBytes (n - c.utf8Size) s

namespace OperandError

/-- The part of the operand that is wrong. -/
def marked (e : OperandError) : List Char :=
  Text.takeBytes (e.span.stop - e.span.start) (Text.dropBytes e.span.start e.operand.toList)

/-- The operand with its wrong part underlined, and the words behind the line. -/
def underlined (e : OperandError) : String :=
  let indent := Text.columns (Text.takeBytes e.span.start e.operand.toList)
  let line := String.ofList (List.replicate indent ' ')
    ++ String.ofList (List.replicate (max 1 (Text.columns e.marked)) '^')
  s!"\n  |\n  | {e.operand}\n  | {line} {e.fault.message}\n"

end OperandError

namespace Fault

/-- The fault with its operand shown on a line of its own. -/
def pretty (f : Fault) : String :=
  (match f.cause.operandError? with
    | some error => error.underlined
    | none => f.message) ++ f.siteText

/-- The fault with its class, or with its operand shown on a line of its own. -/
def debugText (f : Fault) : String :=
  (match f.cause.operandError? with
    | some error => error.underlined
    | none => s!"{f.faultClass.name}: {f.message}") ++ f.siteText

end Fault

end TreeTemplate
