import TreeTemplate.Markup.Fault
import TreeTemplate.Text.Pieces

/-!
# References to characters

In a text and in the value of an attribute, a reference stands for a character that could not be
written there: an ampersand, a name or a number, and a semicolon.

Main statements:

* `resolve_escape`, `resolve_escapeValue` — what is escaped is resolved to itself;
* `escape_clean` — an escaped text holds neither of the marks that begin a construct.
-/

namespace TreeTemplate.Markup

/-- The character with a number. -/
def characterOf (number : Nat) : Except ReferenceFault Char :=
  if number = 0 then .error .zero
  else if number < 0xD800 ∨ (0xE000 ≤ number ∧ number ≤ 0x10FFFF) then .ok (Char.ofNat number)
  else .error (.noCharacter number)

/-- The character of a numeric reference: a decimal number, or a hexadecimal one behind `x`. -/
def numericReference (s : List Char) : Except ReferenceFault Char := do
  let (base, digits) :=
    match s with
    | 'x' :: s => (16, s)
    | s => (10, s)
  if digits.head? = some '+' ∨ digits.head? = some '-' then .error .signed
  else
    match Decimal.readNatural base (UInt32.size - 1) digits with
    | .error error => .error (.numeral error)
    | .ok number => characterOf number

/-- The character of a reference whose name stands between `start` and `stop`. -/
def reference (start stop : Nat) (name : List Char) : Except ReferenceFault Char :=
  match name with
  | '#' :: number => numericReference number
  | ['l', 't'] => .ok '<'
  | ['g', 't'] => .ok '>'
  | ['a', 'm', 'p'] => .ok '&'
  | ['a', 'p', 'o', 's'] => .ok '\''
  | ['q', 'u', 'o', 't'] => .ok '"'
  | name => .error (.unknownName start stop (String.ofList name))

/-- Resolves the rest of a text of `length` bytes, which begins at `position`. A reference that
has been begun is given by its place and by its name so far. -/
def resolveFrom (length position : Nat) (begun : Option (Nat × List Char)) :
    List Char → Except ReferenceFault (List Char)
  | [] =>
    match begun with
    | none => .ok []
    | some (start, _) => .error (.unterminated start length)
  | c :: s =>
    match begun with
    | none =>
      if c = '&' then resolveFrom length (position + 1) (some (position, [])) s
      else do return c :: (← resolveFrom length (position + c.utf8Size) none s)
    | some (start, name) =>
      if c = '&' then .error (.unterminated start length)
      else if c = ';' then do
        let resolved ← reference (start + 1) position name
        return resolved :: (← resolveFrom length (position + 1) none s)
      else resolveFrom length (position + c.utf8Size) (some (start, name ++ [c])) s

/-- A text with its references resolved. -/
def resolve (s : List Char) : Except ReferenceFault (List Char) :=
  resolveFrom (Text.bytes s) 0 none s

/-- What is written for a character of a text. -/
def escapeChar (c : Char) : List Char :=
  match c with
  | '<' => ['&', 'l', 't', ';']
  | '>' => ['&', 'g', 't', ';']
  | '&' => ['&', 'a', 'm', 'p', ';']
  | c => [c]

/-- What is written for a character of the value of an attribute. -/
def escapeValueChar (c : Char) : List Char :=
  match c with
  | '\'' => ['&', 'a', 'p', 'o', 's', ';']
  | '"' => ['&', 'q', 'u', 'o', 't', ';']
  | c => escapeChar c

/-- A text as it is written. -/
def escape (s : List Char) : List Char :=
  s.flatMap escapeChar

/-- The value of an attribute as it is written between quotation marks. -/
def escapeValue (s : List Char) : List Char :=
  s.flatMap escapeValueChar

/-- A character that is written in a text is read as itself. -/
theorem resolveFrom_escapeChar (length position : Nat) (c : Char) (s : List Char) :
    ∃ next, resolveFrom length position none (escapeChar c ++ s) =
      (do return c :: (← resolveFrom length next none s)) := by
  by_cases h1 : c = '<'
  · subst h1; exact ⟨position + 4, rfl⟩
  by_cases h2 : c = '>'
  · subst h2; exact ⟨position + 4, rfl⟩
  by_cases h3 : c = '&'
  · subst h3; exact ⟨position + 5, rfl⟩
  · refine ⟨position + c.utf8Size, ?_⟩
    have : escapeChar c = [c] := by unfold escapeChar; split <;> simp_all
    simp [this, resolveFrom, h3]

/-- A character that is written in a value is read as itself. -/
theorem resolveFrom_escapeValueChar (length position : Nat) (c : Char) (s : List Char) :
    ∃ next, resolveFrom length position none (escapeValueChar c ++ s) =
      (do return c :: (← resolveFrom length next none s)) := by
  by_cases h1 : c = '\''
  · subst h1; exact ⟨position + 6, rfl⟩
  by_cases h2 : c = '"'
  · subst h2; exact ⟨position + 6, rfl⟩
  · have : escapeValueChar c = escapeChar c := by unfold escapeValueChar; split <;> simp_all
    rw [this]
    exact resolveFrom_escapeChar length position c s

/-- A text is read as it was before it was written. -/
theorem resolveFrom_escape (length position : Nat) (s : List Char) :
    resolveFrom length position none (escape s) = .ok s := by
  induction s generalizing position with
  | nil => rfl
  | cons c s ih =>
    obtain ⟨next, h⟩ := resolveFrom_escapeChar length position c (escape s)
    rw [show escape (c :: s) = escapeChar c ++ escape s from List.flatMap_cons, h, ih next]
    rfl

/-- A value is read as it was before it was written. -/
theorem resolveFrom_escapeValue (length position : Nat) (s : List Char) :
    resolveFrom length position none (escapeValue s) = .ok s := by
  induction s generalizing position with
  | nil => rfl
  | cons c s ih =>
    obtain ⟨next, h⟩ := resolveFrom_escapeValueChar length position c (escapeValue s)
    rw [show escapeValue (c :: s) = escapeValueChar c ++ escapeValue s from List.flatMap_cons, h,
      ih next]
    rfl

/-- An escaped text is resolved to itself. -/
theorem resolve_escape (s : List Char) : resolve (escape s) = .ok s :=
  resolveFrom_escape _ 0 s

/-- An escaped value is resolved to itself. -/
theorem resolve_escapeValue (s : List Char) : resolve (escapeValue s) = .ok s :=
  resolveFrom_escapeValue _ 0 s

/-- What is written for a character of a text holds no bracket. -/
theorem mem_escapeChar {c d : Char} (h : d ∈ escapeChar c) : d ≠ '<' ∧ d ≠ '>' := by
  have clean {written : List Char} (hw : written.all fun d => d ≠ '<' ∧ d ≠ '>')
      (hd : d ∈ written) : d ≠ '<' ∧ d ≠ '>' := by
    simpa using List.all_eq_true.1 hw d hd
  by_cases h1 : c = '<'
  · subst h1
    exact clean (by decide) h
  by_cases h2 : c = '>'
  · subst h2
    exact clean (by decide) h
  by_cases h3 : c = '&'
  · subst h3
    exact clean (by decide) h
  · have : escapeChar c = [c] := by unfold escapeChar; split <;> simp_all
    rw [this] at h
    rcases List.mem_singleton.1 h with rfl
    exact ⟨h1, h2⟩

/-- An escaped text holds no angle bracket. -/
theorem escape_clean {s : List Char} {d : Char} (h : d ∈ escape s) : d ≠ '<' ∧ d ≠ '>' := by
  obtain ⟨c, _, hd⟩ := List.mem_flatMap.1 h
  exact mem_escapeChar hd

end TreeTemplate.Markup
