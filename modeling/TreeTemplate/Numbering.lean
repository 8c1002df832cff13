import TreeTemplate.Fault

/-!
# Numbering

The format of a label for the items of ordered lists and maps: text with placeholders, each of
which is a percent sign and a code. The last placeholder stands for the position in the innermost
ordered construct, the one before it for the position in the construct around that, and so on.
-/

namespace TreeTemplate

/-- The ways to write a position. -/
inductive NumberStyle where
  | arabic
  | lowerLetter
  | upperLetter
  | lowerRoman
  | upperRoman
deriving Repr, DecidableEq

namespace NumberStyle

/-- The style of a code. -/
def ofCode? : Char → Option NumberStyle
  | 'n' => some arabic
  | 's' => some lowerLetter
  | 'S' => some upperLetter
  | 'i' => some lowerRoman
  | 'I' => some upperRoman
  | _ => none

/-- A position in letters: the letters of the alphabet, then each of them twice, and so on. -/
def letters (n : Nat) : List Char :=
  if n = 0 then []
  else List.replicate ((n - 1) / 26 + 1) (Char.ofNat ('A'.toNat + (n - 1) % 26))

/-- The values of the Roman numerals, the largest first. -/
def romanValues : List (Nat × List Char) :=
  [(1000, ['M']), (900, ['C', 'M']), (500, ['D']), (400, ['C', 'D']), (100, ['C']),
   (90, ['X', 'C']), (50, ['L']), (40, ['X', 'L']), (10, ['X']), (9, ['I', 'X']), (5, ['V']),
   (4, ['I', 'V']), (1, ['I'])]

/-- A number in the given numerals: as many of the first as fit, then the rest in the others. -/
def romanFrom (n : Nat) : List (Nat × List Char) → List Char
  | [] => []
  | (value, numeral) :: smaller =>
    (List.replicate (n / value) numeral).flatten ++ romanFrom (n % value) smaller

/-- A position in Roman numerals. -/
def roman (n : Nat) : List Char :=
  romanFrom n romanValues

/-- A position in a style. -/
def label (n : Nat) : NumberStyle → List Char
  | arabic => Nat.toDigits 10 n
  | lowerLetter => (letters n).map Char.toLower
  | upperLetter => letters n
  | lowerRoman => (roman n).map Char.toLower
  | upperRoman => roman n

end NumberStyle

/-- A part of a numbering format. -/
inductive NumberingPart where
  | literal (c : Char)
  | placeholder (style : NumberStyle)
deriving Repr, DecidableEq

/-- A numbering format. -/
abbrev Numbering := List NumberingPart

namespace Numbering

/-- Reads the rest of a format, which begins at `start`. -/
def parseFrom (format : String) (start : Nat) : List Char → Except OperandError Numbering
  | [] => .ok []
  | '%' :: [] => .error ⟨.missingCode, format, ⟨start, start + 1⟩⟩
  | '%' :: code :: s =>
    match NumberStyle.ofCode? code with
    | none => .error ⟨.unknownCode, format, ⟨start, start + 1 + code.utf8Size⟩⟩
    | some style => do return .placeholder style :: (← parseFrom format (start + 2) s)
  | c :: s => do return .literal c :: (← parseFrom format (start + c.utf8Size) s)

/-- Reads a format. -/
def parse (format : String) : Except OperandError Numbering :=
  parseFrom format 0 format.toList

/-- The number of placeholders of a format. -/
def placeholders : Numbering → Nat
  | [] => 0
  | .literal _ :: parts => placeholders parts
  | .placeholder _ :: parts => placeholders parts + 1

/-- A format with its placeholders filled in. The positions begin with the innermost one, so a
placeholder takes the position that has as many before it as placeholders follow. -/
def fill (positions : List Nat) : Numbering → List Char
  | [] => []
  | .literal c :: parts => c :: fill positions parts
  | .placeholder style :: parts =>
    style.label (positions.getD (placeholders parts) 0) ++ fill positions parts

/-- The label that a format gives at the given positions, the innermost first. There must be a
position for each placeholder, and one at least. -/
def label (positions : List Nat) (format : Numbering) : Except Cause String :=
  if positions.isEmpty then .error .numberingOutside
  else if format.placeholders > positions.length then
    .error (.numberingTooDeep format.placeholders positions.length)
  else .ok (String.ofList (format.fill positions))

end Numbering

end TreeTemplate
