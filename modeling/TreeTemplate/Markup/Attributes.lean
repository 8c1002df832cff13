import TreeTemplate.Markup.Reference

/-!
# Attributes of a tag

Reading the attributes of a tag. A name is any character that is no white space and everything up
to the next equals sign or white space. The value stands between quotation marks, or it is
everything up to the next white space; an attribute without an equals sign has the empty value. No
name may stand twice.

White space in markup is the blank, the tab, and the two characters that end a line.
-/

namespace TreeTemplate.Markup

/-- Whether a character is white space between the parts of a tag. -/
def isSpace (c : Char) : Bool :=
  c = ' ' || c = '\t' || c = '\r' || c = '\n'

/-- An attribute as it is read: its name, its value without the quotation marks, and the
characters up to the end of the value. -/
structure RawAttribute where
  name : List Char
  value : List Char
  extent : List Char
deriving Repr

/-- Splits a text behind the white space that it begins with. -/
def spanSpace (s : List Char) : List Char × List Char :=
  (s.takeWhile isSpace, s.dropWhile isSpace)

/-- Whether a character may follow the first character of a name. -/
def continuesName (c : Char) : Bool :=
  c != '=' && !isSpace c

/-- The value behind an equals sign and the characters it extends over, in a tag of `length`
bytes. -/
def readValue (length : Nat) (s : List Char) : Except AttributeFault (List Char × List Char) :=
  let (space, s) := spanSpace s
  match s with
  | [] => .error (.missingValue length)
  | c :: rest =>
    if c = '"' ∨ c = '\'' then
      let value := rest.takeWhile (· ≠ c)
      match rest.dropWhile (· ≠ c) with
      | [] => .error (.openQuote length c)
      | _ :: _ => .ok (value, space ++ c :: value ++ [c])
    else
      let value := s.takeWhile fun c => !isSpace c
      .ok (value, space ++ value)

/-- Reads the attribute that a text begins with, which is no white space, given the names before
it with their places. -/
def RawAttribute.read (length position : Nat) (seen : List (List Char × Nat)) (first : Char)
    (s : List Char) : Except AttributeFault RawAttribute :=
  let name := first :: s.takeWhile continuesName
  let (space, rest) := spanSpace (s.dropWhile continuesName)
  match seen.lookup name with
  | some previous => .error (.repeated position previous)
  | none =>
    match rest with
    | '=' :: rest =>
      match readValue length rest with
      | .error fault => .error fault
      | .ok (value, extent) => .ok ⟨name, value, name ++ space ++ '=' :: extent⟩
    | _ => .ok ⟨name, [], name⟩

/-- Reads the attributes in the rest of a tag of `length` bytes, given the names before it with
their places. The first `skip` characters belong to the attribute before. -/
def readAttributes (length : Nat) (position skip : Nat) (seen : List (List Char × Nat)) :
    List Char → Except Fault (List (String × String))
  | [] => .ok []
  | c :: s =>
    match skip with
    | skip + 1 => readAttributes length (position + c.utf8Size) skip seen s
    | 0 =>
      if isSpace c then readAttributes length (position + c.utf8Size) 0 seen s
      else
        match RawAttribute.read length position seen c s with
        | .error fault => .error (.attributes fault)
        | .ok attr =>
          match resolve attr.value with
          | .error fault => .error (.value fault)
          | .ok value => do
            let later ← readAttributes length (position + c.utf8Size) (attr.extent.length - 1)
              ((attr.name, position) :: seen) s
            return (String.ofList attr.name, String.ofList value) :: later

end TreeTemplate.Markup
