import TreeTemplate.Clause
import TreeTemplate.Path
import TreeTemplate.Text.Alphanumeric

/-!
# Conditions

A condition is a list of statements with semicolons between them, all of which must hold. A
statement reads a path and tests the value: that there is something, that its text is a literal, or
that it is a smaller or a larger number. An exclamation mark turns the test round.

A path that the model does not have counts as null, and what is missing is reported beside the
answer.

Main statements:

* `holds_append` — a condition in two parts is the conjunction of its parts, and the second part is
  not read when the first does not hold.
-/

namespace TreeTemplate

/-- What a statement asks of a value. -/
inductive Test where
  | present
  | equals (literal : String)
  /-- The value is below the number that the literal stands for. -/
  | below (literal : String) (bound : Float)
  /-- The value is above the number that the literal stands for. -/
  | above (literal : String) (bound : Float)

/-- A statement of a condition. -/
structure Statement where
  negated : Bool
  path : String
  test : Test

/-- A condition, whose statements must all hold. -/
abbrev Condition := List Statement

/-- Whether a character may stand in the path of a statement. -/
def Statement.isPathChar (c : Char) : Bool :=
  c = '.' || c = '$' || c = '-' || c = '_' || Text.isAlphanumeric c

/-- Reads the test of a statement, which begins at `start` of an operand. -/
def Test.parse (operand : String) (start : Nat) : List Char → Except OperandError Test
  | [] => .ok .present
  | c :: literal =>
    if c = '=' ∨ c = '<' ∨ c = '>' then
      if literal.isEmpty then .error ⟨.missingLiteral, operand, ⟨start, start + 1⟩⟩
      else if c = '=' then .ok (.equals (String.ofList literal))
      else
        match Decimal.readFloat? literal with
        | none =>
          .error ⟨.expectedNumber, operand, ⟨start + 1, start + 1 + Text.bytes literal⟩⟩
        | some bound =>
          if c = '<' then .ok (.below (String.ofList literal) bound)
          else .ok (.above (String.ofList literal) bound)
    else .error ⟨.expectedComparison, operand, ⟨start, start + c.utf8Size⟩⟩

/-- Reads a statement. -/
def Statement.parse (operand : String) (piece : Text.Piece) : Except OperandError Statement := do
  let (negated, rest, start) :=
    match piece.chars with
    | '!' :: rest => (true, rest, piece.start + 1)
    | rest => (false, rest, piece.start)
  let path := rest.takeWhile isPathChar
  if path.isEmpty then .error ⟨.expectedPath, operand, characterAt operand start⟩
  else
    let test ← Test.parse operand (start + Text.bytes path) (rest.dropWhile isPathChar)
    return ⟨negated, String.ofList path, test⟩

namespace Condition

/-- The pieces of a condition; the last one does not count when it is empty and others stand
before it. -/
def statementPieces (start : Nat) (s : List Char) : List Text.Piece :=
  let pieces := Text.placeFrom start (Text.split ';' s)
  if pieces.length > 1 ∧ (pieces.getLast?.map (·.chars)) = some [] then pieces.dropLast else pieces

/-- Reads the condition that stands at `start` of an operand. -/
def parseAt (operand : String) (start : Nat) (s : List Char) : Except OperandError Condition :=
  (statementPieces start s).mapM (Statement.parse operand)

/-- Reads an operand that is a condition. -/
def parse (operand : String) : Except OperandError Condition :=
  parseAt operand 0 operand.toList

end Condition

/-- Whether a value passes a test; null passes none. -/
def Test.passes (value : Value) : Test → Bool
  | present => !value.isNull && value.isTruthy
  | equals literal => value.text? == some literal
  | below _ bound => value.number?.any fun x => decide (x < bound)
  | above _ bound => value.number?.any fun x => decide (bound < x)

/-- Whether a statement holds in a scope, and what the model lacks for it. -/
def Statement.holds (model scope : Value) (s : Statement) : Except Cause (Bool × List Cause) :=
  match Path.read model scope s.path with
  | .ok value => .ok (s.test.passes value != s.negated, [])
  | .error cause =>
    if cause.faultClass = .content then .ok (s.test.passes .null != s.negated, [cause])
    else .error cause

/-- Whether a condition holds in a scope, and what the model lacks for the statements that were
read. -/
def Condition.holds (model scope : Value) : Condition → Except Cause (Bool × List Cause)
  | [] => .ok (true, [])
  | s :: later => do
    let (held, lacking) ← s.holds model scope
    if held then
      let (heldLater, lackingLater) ← Condition.holds model scope later
      return (heldLater, lacking ++ lackingLater)
    else return (false, lacking)

/-- A condition in two parts is the conjunction of its parts, and the second part is not read when
the first does not hold. -/
theorem Condition.holds_append (model scope : Value) (first second : Condition) :
    Condition.holds model scope (first ++ second) = (do
      let (held, lacking) ← Condition.holds model scope first
      if held then
        let (heldLater, lackingLater) ← Condition.holds model scope second
        return (heldLater, lacking ++ lackingLater)
      else return (false, lacking)) := by
  induction first with
  | nil =>
    cases h : Condition.holds model scope second <;>
      simp [Condition.holds, h, bind, Except.bind, pure, Except.pure]
  | cons s first ih =>
    simp only [List.cons_append, Condition.holds]
    cases hs : s.holds model scope with
    | error e => rfl
    | ok answer =>
      obtain ⟨held, lacking⟩ := answer
      cases held with
      | false => rfl
      | true =>
        simp only [bind, Except.bind, pure, Except.pure, if_true] at ih ⊢
        rw [ih]
        cases Condition.holds model scope first with
        | error e => rfl
        | ok answer =>
          obtain ⟨heldFirst, lackingFirst⟩ := answer
          cases heldFirst with
          | false => rfl
          | true =>
            simp only [if_true]
            cases Condition.holds model scope second with
            | error e => rfl
            | ok answer => simp [List.append_assoc]

end TreeTemplate
