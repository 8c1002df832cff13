import TreeTemplate.Markup.Attributes

/-!
# Lexemes of markup

The constructs that markup is made of, read one after another: tags, texts, character data, and
constructs that are passed over.

Main statements:

* `Lexeme.extent_ne_nil` — a lexeme extends over one character at least.
-/

namespace TreeTemplate.Markup

/-- A construct of markup. -/
inductive Lexeme where
  /-- A text whose references are not resolved yet. -/
  | text (raw : List Char)
  /-- A text without references. -/
  | characterData (content : List Char)
  /-- A comment, a declaration, an instruction or a document type. -/
  | aside
  /-- The tag that begins an element, without its angle brackets; `closed` says that the element
  ends there. -/
  | startTag (body : List Char) (closed : Bool)
  /-- The tag that ends an element. -/
  | endTag (name : List Char)
deriving Repr

/-- What stands before the first closing angle bracket outside of quotation marks. -/
def tagBody? (quote : Option Char) : List Char → Option (List Char)
  | [] => none
  | c :: s =>
    match quote with
    | some q => (tagBody? (if c = q then none else some q) s).map (c :: ·)
    | none =>
      if c = '>' then some []
      else (tagBody? (if c = '"' ∨ c = '\'' then some c else none) s).map (c :: ·)

/-- What stands before the closing angle bracket that belongs to an opening one, when `depth`
others have been opened since. -/
def balancedBody? (depth : Nat) : List Char → Option (List Char)
  | [] => none
  | c :: s =>
    if c = '>' then
      match depth with
      | 0 => some []
      | depth + 1 => (balancedBody? depth s).map (c :: ·)
    else (balancedBody? (if c = '<' then depth + 1 else depth) s).map (c :: ·)

/-- A lexeme with what stands between its angle brackets. -/
abbrev Bracketed := Lexeme × List Char

/-- Character data, which begins behind an angle bracket. -/
def readCharacterData (s : List Char) : Except ConstructFault Bracketed :=
  match Text.splitAtFirst [']', ']', '>'] s with
  | none => .error .openCharacterData
  | some (body, _) =>
    match Text.afterPrefix? "![CDATA[".toList body with
    | none => .error .openCharacterData
    | some content => .ok (.characterData content, body ++ [']', ']'])

/-- A comment, which begins behind an angle bracket. Its two marks do not share a hyphen. -/
def readComment (s : List Char) : Except ConstructFault Bracketed :=
  match Text.splitAtFirst ['-', '-', '>'] (s.drop 3) with
  | none => .error .openComment
  | some (body, _) =>
    if s.take 3 = ['!', '-', '-'] then .ok (.aside, s.take 3 ++ body ++ ['-', '-'])
    else .error .openComment

/-- A document type, which begins behind an angle bracket. A fault comes with the number of bytes
between that bracket and the one that is blamed. -/
def readDoctype (s : List Char) : Except (ConstructFault × Nat) Bracketed :=
  match balancedBody? 0 s with
  | none => .error (.openDoctype, 0)
  | some body =>
    match Text.afterPrefix? "!DOCTYPE".toList (body.take 8 |>.map Char.toUpper) with
    | none => .error (.openDoctype, 0)
    | some _ =>
      if (body.drop 8).all isSpace then .error (.namelessDoctype, 1 + Text.bytes body)
      else .ok (.aside, body)

/-- An instruction or a declaration, which begins behind an angle bracket. -/
def readInstruction (s : List Char) : Except ConstructFault Bracketed :=
  match Text.splitAtFirst ['?', '>'] s with
  | none => .error .openInstruction
  | some (body, _) =>
    if body.isEmpty then .error .openInstruction else .ok (.aside, body ++ ['?'])

/-- The name in an end tag; white space behind it does not count. -/
def endTagName (s : List Char) : List Char :=
  if s.all isSpace then s else (s.reverse.dropWhile isSpace).reverse

/-- The construct that begins with an angle bracket and goes on with the given text. -/
def readConstruct (s : List Char) : Except (ConstructFault × Nat) Bracketed :=
  match s with
  | [] => .error (.openTag, 0)
  | '!' :: '[' :: _ => (readCharacterData s).mapError (·, 0)
  | '!' :: '-' :: _ => (readComment s).mapError (·, 0)
  | '!' :: 'D' :: _ | '!' :: 'd' :: _ => readDoctype s
  | '!' :: _ => .error (.unknown, 0)
  | '?' :: _ => (readInstruction s).mapError (·, 0)
  | '/' :: _ =>
    match tagBody? none s with
    | none => .error (.openTag, 0)
    | some body => .ok (.endTag (endTagName (body.drop 1)), body)
  | _ =>
    match tagBody? none s with
    | none => .error (.openTag, 0)
    | some body =>
      if body.getLast? = some '/' then .ok (.startTag body.dropLast true, body)
      else .ok (.startTag body false, body)

/-- The lexeme that a text begins with and the characters that it extends over. A fault comes with
the number of bytes before the byte that is blamed. -/
def Lexeme.read (c : Char) (s : List Char) :
    Except (ConstructFault × Nat) (Lexeme × List Char) :=
  if c = '<' then (readConstruct s).map fun (lexeme, body) => (lexeme, '<' :: body ++ ['>'])
  else
    let raw := c :: s.takeWhile (· ≠ '<')
    .ok (.text raw, raw)

/-- A lexeme extends over one character at least. -/
theorem Lexeme.extent_ne_nil {c : Char} {s extent : List Char} {lexeme : Lexeme}
    (h : Lexeme.read c s = .ok (lexeme, extent)) : extent ≠ [] := by
  simp only [Lexeme.read] at h
  split at h
  · cases hr : readConstruct s with
    | error e => simp [hr, Except.map] at h
    | ok r =>
      simp only [hr, Except.map, Except.ok.injEq, Prod.mk.injEq] at h
      simp [← h.2]
  · simp only [Except.ok.injEq, Prod.mk.injEq] at h
    simp [← h.2]

end TreeTemplate.Markup
