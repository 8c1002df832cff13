import TreeTemplate.Text.LetterCase.Tables

/-!
# Letter case

The case of a letter and the case mappings. A letter may map to several letters, and the lower
case of a capital sigma depends on its place in the word, so the mapping of a text is more than the
mapping of its letters.
-/

namespace TreeTemplate.Text

/-- Whether a character has the property `Lowercase`. -/
def isLowercase (c : Char) : Bool :=
  lowercase.contains c

/-- Whether a character has the property `Uppercase`. -/
def isUppercase (c : Char) : Bool :=
  uppercase.contains c

/-- The image of a code point, if the run holds it. -/
def CaseRun.image? (r : CaseRun) (n : Nat) : Option Nat :=
  if r.first ≤ n ∧ n ≤ r.last ∧ (n - r.first) % r.step = 0 then some (r.target + (n - r.first))
  else none

/-- The image of a character under a case mapping; a character without an entry is its own
image. -/
def mapCase (runs : List CaseRun) (expansions : List (Nat × List Nat)) (c : Char) : List Char :=
  match expansions.lookup c.toNat with
  | some images => images.map Char.ofNat
  | none =>
    match runs.findSome? (·.image? c.toNat) with
    | some image => [Char.ofNat image]
    | none => [c]

/-- The upper case of a letter. -/
def upperCase (c : Char) : List Char :=
  mapCase upperRuns upperExpansions c

/-- The lower case of a letter, wherever it stands. -/
def lowerCase (c : Char) : List Char :=
  mapCase lowerRuns lowerExpansions c

/-- Whether the first character that is not passed over has a case. -/
def meetsCased (s : List Char) : Bool :=
  match s.dropWhile caseIgnorable.contains with
  | [] => false
  | c :: _ => cased.contains c

/-- The lower case of the rest of a text, given the text before it in reverse. A capital sigma
becomes a final sigma when a letter stands before it and none after it. -/
def lowerRest (before : List Char) : List Char → List Char
  | [] => []
  | c :: s =>
    let image :=
      if c = 'Σ' then if meetsCased before && !meetsCased s then ['ς'] else ['σ']
      else lowerCase c
    image ++ lowerRest (c :: before) s

/-- The lower case of a text. -/
def lowerText (s : List Char) : List Char :=
  lowerRest [] s

end TreeTemplate.Text
