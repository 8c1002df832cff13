import TreeTemplate.Fault
import TreeTemplate.Text.Blank

/-!
# Clauses

The operand of some directives is a list of clauses with semicolons between them. A clause is a
name, or a name and a value with a colon between them. Blanks around names and values do not count,
and the last clause may be blank.

Main statements:

* `parse_ne_nil` — an operand that is accepted has a clause.
-/

namespace TreeTemplate

/-- A clause of an operand. -/
structure Clause where
  name : String
  value? : Option String
  /-- The bytes of the operand before the name. -/
  start : Nat
deriving Repr, DecidableEq

/-- The span of the character at a byte of an operand, empty at its end. -/
def characterAt (operand : String) (start : Nat) : Span :=
  match Text.dropBytes start operand.toList with
  | [] => ⟨start, start⟩
  | c :: _ => ⟨start, start + c.utf8Size⟩

namespace Clause

/-- The clause in a piece of an operand that is not blank. -/
def ofPiece (operand : String) (piece : Text.Piece) : Except OperandError Clause := do
  let start := piece.start + (Text.bytes piece.chars - Text.bytes (Text.trimStart piece.chars))
  let (name, value?) ←
    match Text.splitOnce ':' piece.chars with
    | none => .ok (Text.trim piece.chars, none)
    | some (name, value) =>
      if Text.allBlank value then
        let colon := piece.start + Text.bytes name
        .error ⟨.emptyValue, operand, ⟨colon, colon + 1⟩⟩
      else .ok (Text.trim name, some (String.ofList (Text.trim value)))
  if name.isEmpty then .error ⟨.emptyName, operand, characterAt operand piece.start⟩
  else .ok ⟨String.ofList name, value?, start⟩

/-- The clauses in the pieces of an operand. -/
def ofPieces (operand : String) : List Text.Piece → Except OperandError (List Clause)
  | [] => .ok []
  | piece :: pieces =>
    if Text.allBlank piece.chars then
      if pieces.isEmpty then .ok []
      else .error ⟨.emptyClause, operand, characterAt operand piece.start⟩
    else do
      let clause ← ofPiece operand piece
      return clause :: (← ofPieces operand pieces)

/-- Reads the clauses of an operand; there must be one. -/
def parse (operand : String) : Except Cause (List Clause) :=
  match ofPieces operand (Text.piecesAt ';' operand.toList) with
  | .error error => .error (.malformed error)
  | .ok [] => .error .emptyOperand
  | .ok clauses => .ok clauses

/-- An operand that is accepted has a clause. -/
theorem parse_ne_nil {operand : String} {clauses : List Clause}
    (h : parse operand = .ok clauses) : clauses ≠ [] := by
  simp only [parse] at h
  split at h
  · simp at h
  · simp at h
  · rename_i hne _
    rintro rfl
    simp_all

end Clause

end TreeTemplate
