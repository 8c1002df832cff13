import TreeTemplate.Text.LetterCase

/-!
# Ways to write a name of several words

A hyphenated name in camel case, and the name of a class made of a name in capitals or in camel
case.
-/

namespace TreeTemplate.Text

/-- The rest of a hyphenated name in camel case; `capital` says that a hyphen stands before it. -/
def camelRest (capital : Bool) : List Char → List Char
  | [] => []
  | c :: s =>
    if c = '-' then camelRest true s
    else if capital then upperCase c ++ camelRest false s
    else c :: camelRest false s

/-- A hyphenated name in camel case: the hyphens go, and the letter behind a hyphen is a
capital. -/
def camelCase (name : List Char) : List Char :=
  camelRest false name

/-- The rest of a name in camel case with a hyphen before each capital; `inside` says that
something has been written before it. -/
def hyphenatedRest (inside : Bool) : List Char → List Char
  | [] => []
  | c :: s =>
    if isUppercase c then
      (if inside then ['-'] else []) ++ lowerCase c ++ hyphenatedRest true s
    else c :: hyphenatedRest true s

/-- The class that a name stands for: a name without small letters is lowered and its underscores
become hyphens, any other name gets a hyphen before each capital. -/
def className (name : List Char) : List Char :=
  if name.any isLowercase then hyphenatedRest false name
  else (lowerText name).map fun c => if c = '_' then '-' else c

end TreeTemplate.Text
