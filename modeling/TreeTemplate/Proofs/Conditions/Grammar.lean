import Mathlib.Data.List.Forall2
import Mathlib.Data.List.TakeWhile
import TreeTemplate.Condition
import TreeTemplate.Proofs.Text.Pieces

/-!
# The grammar of conditions

What a condition looks like, told without its reader: parts with semicolons between them, of which
the last may be followed by one more. A part is an exclamation mark or none, a path and a test. The
reader accepts the texts of the grammar and no others, and it gives the only statements that the
parts spell.

Main statements:

* `Statement.parse_eq_ok` — a part is read as a statement just when it spells it;
* `Condition.parseAt_eq_ok` — a text is read as a condition just when its parts spell the
  statements in turn;
* `Condition.parseAt_chars` — a condition that is written out is read back;
* `Condition.parseAt_append` — two conditions with a semicolon between them are one;
* `condition_grammar` — all of it, with what the joined condition evaluates to.
-/

namespace TreeTemplate

/-! ### Statements -/

/-- What may stand behind the path of a statement, and the test that it is. -/
inductive Test.Spells : List Char → Test → Prop
  | present : Spells [] .present
  | equals (literal : List Char) (hne : literal ≠ []) :
      Spells ('=' :: literal) (.equals (String.ofList literal))
  | below (literal : List Char) (bound : Float) (h : Decimal.readFloat? literal = some bound) :
      Spells ('<' :: literal) (.below (String.ofList literal) bound)
  | above (literal : List Char) (bound : Float) (h : Decimal.readFloat? literal = some bound) :
      Spells ('>' :: literal) (.above (String.ofList literal) bound)

/-- What a part of a condition looks like, and the statement that it is. -/
inductive Statement.Spells : List Char → Statement → Prop
  | plain (path tail : List Char) (test : Test) (hne : path ≠ [])
      (hpath : ∀ c ∈ path, isPathChar c = true) (htest : test.Spells tail) :
      Spells (path ++ tail) ⟨false, String.ofList path, test⟩
  | negated (path tail : List Char) (test : Test) (hne : path ≠ [])
      (hpath : ∀ c ∈ path, isPathChar c = true) (htest : test.Spells tail) :
      Spells ('!' :: (path ++ tail)) ⟨true, String.ofList path, test⟩

/-- A test as it is written. -/
def Test.chars : Test → List Char
  | present => []
  | equals literal => '=' :: literal.toList
  | below literal _ => '<' :: literal.toList
  | above literal _ => '>' :: literal.toList

/-- A statement as it is written. -/
def Statement.chars (s : Statement) : List Char :=
  (if s.negated then ['!'] else []) ++ (s.path.toList ++ s.test.chars)

/-- A test is spelled in one way. -/
lemma Test.Spells.eq_chars {tail : List Char} {test : Test} (h : test.Spells tail) :
    tail = test.chars := by
  cases h <;> simp [Test.chars]

/-- A statement is spelled in one way. -/
lemma Statement.Spells.eq_chars {part : List Char} {s : Statement} (h : s.Spells part) :
    part = s.chars := by
  cases h with
  | plain path tail test _ _ htest => simp [Statement.chars, htest.eq_chars]
  | negated path tail test _ _ htest => simp [Statement.chars, htest.eq_chars]

/-- A test is read just when it is spelled. -/
lemma Test.parse_eq_ok {operand : String} {start : Nat} {tail : List Char} {test : Test} :
    Test.parse operand start tail = .ok test ↔ test.Spells tail := by
  constructor
  · intro h
    cases tail with
    | nil =>
      obtain rfl : Test.present = test := by simpa [Test.parse] using h
      exact .present
    | cons c literal =>
      simp only [Test.parse] at h
      split at h
      case isFalse => cases h
      case isTrue hc =>
        split at h
        case isTrue => cases h
        case isFalse hne =>
          split at h
          case isTrue heq =>
            cases h
            exact heq ▸ .equals literal (by simpa using hne)
          case isFalse hneq =>
            cases hbound : Decimal.readFloat? literal with
            | none => simp [hbound] at h
            | some bound =>
              rw [hbound] at h
              dsimp only at h
              split at h
              case isTrue hlt =>
                cases h
                exact hlt ▸ .below literal bound hbound
              case isFalse hnlt =>
                cases h
                obtain rfl : c = '>' := by simpa [hneq, hnlt] using hc
                exact .above literal bound hbound
  · intro h
    have hnumber : ∀ {literal : List Char} {bound : Float},
        Decimal.readFloat? literal = some bound → literal ≠ [] := by
      rintro _ _ hbound rfl
      cases hbound
    cases h with
    | present => rfl
    | equals literal hne => simp [Test.parse, hne]
    | below literal bound hbound => simp [Test.parse, hbound, hnumber hbound]
    | above literal bound hbound => simp [Test.parse, hbound, hnumber hbound]

/-- A test does not go on with the path. -/
lemma Test.Spells.takeWhile_eq_nil {tail : List Char} {test : Test} (h : test.Spells tail) :
    tail.takeWhile Statement.isPathChar = [] := by
  have hequals : Statement.isPathChar '=' = false := by decide
  have hbelow : Statement.isPathChar '<' = false := by decide
  have habove : Statement.isPathChar '>' = false := by decide
  cases h <;> simp [*]

/-- The path of a statement is the longest run of its characters. -/
lemma Statement.span_path {path tail : List Char} {test : Test}
    (hpath : ∀ c ∈ path, isPathChar c = true) (htest : test.Spells tail) :
    (path ++ tail).takeWhile isPathChar = path ∧ (path ++ tail).dropWhile isPathChar = tail := by
  have hrun : (path ++ tail).takeWhile isPathChar = path := by
    rw [List.takeWhile_append_of_pos hpath, htest.takeWhile_eq_nil, List.append_nil]
  refine ⟨hrun, ?_⟩
  have hwhole := List.takeWhile_append_dropWhile (p := isPathChar) (l := path ++ tail)
  rwa [hrun, List.append_cancel_left_eq] at hwhole

/-- Reads a statement behind its exclamation mark, if it has one. -/
def Statement.parseBody (operand : String) (negated : Bool) (start : Nat) (rest : List Char) :
    Except OperandError Statement :=
  if (rest.takeWhile isPathChar).isEmpty then
    .error ⟨.expectedPath, operand, characterAt operand start⟩
  else do
    let test ← Test.parse operand (start + Text.bytes (rest.takeWhile isPathChar))
      (rest.dropWhile isPathChar)
    return ⟨negated, String.ofList (rest.takeWhile isPathChar), test⟩

/-- A statement behind an exclamation mark is negated. -/
lemma Statement.parse_negated (operand : String) (start : Nat) (rest : List Char) :
    Statement.parse operand ⟨start, '!' :: rest⟩ = parseBody operand true (start + 1) rest := rfl

/-- A statement without an exclamation mark in front is not negated. -/
lemma Statement.parse_plain (operand : String) (start : Nat) {part : List Char}
    (h : part.head? ≠ some '!') :
    Statement.parse operand ⟨start, part⟩ = parseBody operand false start part := by
  cases part with
  | nil => rfl
  | cons c rest =>
    have hc : c ≠ '!' := by simpa using h
    simp only [Statement.parse, parseBody]
    split
    · simp_all
    · rfl

/-- Behind its exclamation mark a statement is a path and a test. -/
lemma Statement.parseBody_eq_ok {operand : String} {negated : Bool} {start : Nat}
    {rest : List Char} {s : Statement} :
    parseBody operand negated start rest = .ok s ↔
      ∃ path tail test, rest = path ++ tail ∧ path ≠ [] ∧ (∀ c ∈ path, isPathChar c = true) ∧
        test.Spells tail ∧ s = ⟨negated, String.ofList path, test⟩ := by
  constructor
  · intro h
    rw [parseBody] at h
    split at h
    case isTrue => cases h
    case isFalse hne =>
      cases htest : Test.parse operand (start + Text.bytes (rest.takeWhile isPathChar))
          (rest.dropWhile isPathChar) with
      | error e => simp [htest, bind, Except.bind] at h
      | ok test =>
        rw [htest] at h
        cases h
        exact ⟨rest.takeWhile isPathChar, rest.dropWhile isPathChar, test,
          List.takeWhile_append_dropWhile.symm, by simpa using hne,
          fun c hc => List.mem_takeWhile_imp hc, Test.parse_eq_ok.1 htest, rfl⟩
  · rintro ⟨path, tail, test, rfl, hne, hpath, htest, rfl⟩
    obtain ⟨htake, hdrop⟩ := span_path hpath htest
    rw [parseBody, htake, hdrop, if_neg (by simpa using hne), Test.parse_eq_ok.2 htest]
    rfl

/-- A part of a condition is read as a statement just when it spells it. -/
theorem Statement.parse_eq_ok {operand : String} {piece : Text.Piece} {s : Statement} :
    Statement.parse operand piece = .ok s ↔ s.Spells piece.chars := by
  obtain ⟨start, part⟩ := piece
  have hmark : isPathChar '!' = false := by decide
  constructor
  · intro h
    by_cases hhead : part.head? = some '!'
    · obtain ⟨rest, rfl⟩ : ∃ rest, part = '!' :: rest := by
        cases part <;> simp_all
      obtain ⟨path, tail, test, rfl, hne, hpath, htest, rfl⟩ :=
        parseBody_eq_ok.1 ((parse_negated operand start rest).symm.trans h)
      exact .negated path tail test hne hpath htest
    · obtain ⟨path, tail, test, rfl, hne, hpath, htest, rfl⟩ :=
        parseBody_eq_ok.1 ((parse_plain operand start hhead).symm.trans h)
      exact .plain path tail test hne hpath htest
  · intro h
    cases h with
    | plain path tail test hne hpath htest =>
      -- no path begins with an exclamation mark, so this is not taken for a negated statement
      have hhead : (path ++ tail).head? ≠ some '!' := by
        obtain ⟨c, path, rfl⟩ := List.exists_cons_of_ne_nil hne
        intro heq
        obtain rfl : c = '!' := by simpa using heq
        simp [hmark] at hpath
      refine (parse_plain operand start hhead).trans ?_
      exact parseBody_eq_ok.2 ⟨path, tail, test, rfl, hne, hpath, htest, rfl⟩
    | negated path tail test hne hpath htest =>
      rw [parse_negated]
      exact parseBody_eq_ok.2 ⟨path, tail, test, rfl, hne, hpath, htest, rfl⟩

/-- A part that spells a statement is not empty. -/
lemma Statement.Spells.ne_nil {part : List Char} {s : Statement} (h : s.Spells part) :
    part ≠ [] := by
  cases h with
  | plain path tail test hne => simp [hne]
  | negated => simp

/-! ### Conditions -/

/-- Several things are read if each of them is. -/
lemma mapM_eq_ok {α β ε : Type} {f : α → Except ε β} {xs : List α} {ys : List β} :
    xs.mapM f = .ok ys ↔ List.Forall₂ (fun x y => f x = .ok y) xs ys := by
  induction xs generalizing ys with
  | nil => simp [pure, Except.pure, eq_comm]
  | cons x xs ih =>
    rw [List.mapM_cons, List.forall₂_cons_left_iff]
    cases hx : f x with
    | error e => simp [bind, Except.bind]
    | ok y =>
      cases hxs : xs.mapM f with
      | error e =>
        have hnone : ∀ ys, ¬ List.Forall₂ (fun x y => f x = .ok y) xs ys :=
          fun ys h => by simpa [hxs] using ih.2 h
        simp [hnone, bind, Except.bind]
      | ok later =>
        have hlater : ∀ ys, List.Forall₂ (fun x y => f x = .ok y) xs ys ↔ later = ys :=
          fun ys => by rw [← ih, hxs, Except.ok.injEq]
        simp [hlater, bind, Except.bind, pure, Except.pure, eq_comm]

namespace Condition

/-- A text is made of parts, with semicolons between them and perhaps one behind the last. -/
def ConsistsOf (s : List Char) (parts : List (List Char)) : Prop :=
  parts ≠ [] ∧ (∀ part ∈ parts, ';' ∉ part) ∧
    (s = [';'].intercalate parts ∨ s = [';'].intercalate parts ++ [';'])

/-- A condition as it is written, without a semicolon behind the last statement. -/
def chars (statements : Condition) : List Char :=
  [';'].intercalate (statements.map Statement.chars)

/-- The parts of a condition are those between its semicolons, without an empty one behind the
last. -/
lemma map_chars_statementPieces (start : Nat) (s : List Char) :
    (statementPieces start s).map (·.chars) =
      if (Text.split ';' s).length > 1 ∧ (Text.split ';' s).getLast? = some [] then
        (Text.split ';' s).dropLast
      else Text.split ';' s := by
  simp only [statementPieces, Text.length_placeFrom, Text.getLast?_placeFrom]
  split <;> simp [List.map_dropLast]

/-- The pieces that are read are parts of the text. -/
lemma consistsOf_statementPieces (start : Nat) (s : List Char) :
    ConsistsOf s ((statementPieces start s).map (·.chars)) := by
  rw [map_chars_statementPieces]
  have hjoin := Text.intercalate_split ';' s
  split
  case isTrue h =>
    obtain ⟨hlength, hlast⟩ := h
    -- an empty piece behind the last semicolon is dropped, and it is never the only one
    have hne : (Text.split ';' s).dropLast ≠ [] := by
      intro hnil
      have hlong := congrArg List.length hnil
      simp only [List.length_dropLast, List.length_nil] at hlong
      omega
    refine ⟨hne, fun part hpart => Text.not_mem_of_mem_split (List.dropLast_subset _ hpart), ?_⟩
    rw [← List.dropLast_append_getLast? [] hlast, Text.intercalate_append hne (by simp)] at hjoin
    exact .inr (by simpa using hjoin.symm)
  case isFalse =>
    exact ⟨Text.split_ne_nil ';' s, fun part hpart => Text.not_mem_of_mem_split hpart,
      .inl hjoin.symm⟩

/-- Parts that are not empty are the pieces that are read. -/
lemma ConsistsOf.statementPieces {s : List Char} {parts : List (List Char)}
    (h : ConsistsOf s parts) (hparts : ∀ part ∈ parts, part ≠ []) (start : Nat) :
    (statementPieces start s).map (·.chars) = parts := by
  obtain ⟨hne, hsep, hs⟩ := h
  rw [map_chars_statementPieces]
  rcases hs with rfl | rfl
  · rw [Text.split_intercalate hne hsep, if_neg]
    rintro ⟨-, hlast⟩
    exact hparts [] (List.mem_of_getLast? hlast) rfl
  · rw [Text.split_append_cons, Text.split_intercalate hne hsep, Text.split, if_pos]
    · simp
    · have hlength := List.length_pos_iff.2 hne
      exact ⟨by simpa using hlength, by simp⟩

/-- The parts of a text spell statements in turn. -/
def Spell (parts : List (List Char)) (statements : Condition) : Prop :=
  List.Forall₂ (fun part statement => Statement.Spells part statement) parts statements

/-- A part that spells a statement is not empty. -/
lemma Spell.ne_nil {parts : List (List Char)} {statements : Condition}
    (h : Spell parts statements) : ∀ part ∈ parts, part ≠ [] :=
  ((List.forall₂_and_left _ _).1 (List.Forall₂.imp (fun _ _ hs => ⟨hs.ne_nil, hs⟩) h)).1

/-- The parts that spell statements are what is written for these. -/
lemma Spell.eq_map_chars {parts : List (List Char)} {statements : Condition}
    (h : Spell parts statements) : parts = statements.map Statement.chars := by
  have heq := List.Forall₂.imp (fun _ _ hs => Statement.Spells.eq_chars hs) h
  rwa [← List.forall₂_map_right_iff, List.forall₂_eq_eq_eq] at heq

/-- Each of several parts that spell statements spells one. -/
lemma Spell.exists_statement {parts : List (List Char)} {statements : Condition}
    (h : Spell parts statements) : ∀ part ∈ parts, ∃ statement, Statement.Spells part statement :=
  ((List.forall₂_and_left _ _).1
    (List.Forall₂.imp (fun _ statement hs => ⟨⟨statement, hs⟩, hs⟩) h)).1

/-- Parts each of which spells a statement spell statements. -/
lemma exists_spell {parts : List (List Char)}
    (h : ∀ part ∈ parts, ∃ statement, Statement.Spells part statement) :
    ∃ statements, Spell parts statements := by
  induction parts with
  | nil => exact ⟨[], .nil⟩
  | cons part parts ih =>
    obtain ⟨statement, hstatement⟩ := h part List.mem_cons_self
    obtain ⟨statements, hstatements⟩ := ih fun p hp => h p (List.mem_cons_of_mem part hp)
    exact ⟨statement :: statements, .cons hstatement hstatements⟩

/-- A text is read as a condition just when its parts spell the statements in turn. -/
theorem parseAt_eq_ok {operand : String} {start : Nat} {s : List Char} {statements : Condition} :
    parseAt operand start s = .ok statements ↔
      ∃ parts, ConsistsOf s parts ∧ Spell parts statements := by
  have hread : parseAt operand start s = .ok statements ↔
      Spell ((statementPieces start s).map (·.chars)) statements := by
    rw [parseAt, mapM_eq_ok, Spell, List.forall₂_map_left_iff]
    simp only [Statement.parse_eq_ok]
  rw [hread]
  constructor
  · exact fun h => ⟨_, consistsOf_statementPieces start s, h⟩
  · rintro ⟨parts, hconsists, hspells⟩
    rwa [hconsists.statementPieces hspells.ne_nil]

/-- A condition that is written out is read back. -/
theorem parseAt_chars (operand : String) (start : Nat) {statements : Condition}
    (hne : statements ≠ [])
    (h : ∀ statement ∈ statements,
      Statement.Spells statement.chars statement ∧ ';' ∉ statement.chars) :
    parseAt operand start (chars statements) = .ok statements := by
  refine parseAt_eq_ok.2 ⟨statements.map Statement.chars, ⟨by simpa using hne, ?_, .inl rfl⟩, ?_⟩
  · intro part hpart
    obtain ⟨statement, hstatement, rfl⟩ := List.mem_map.1 hpart
    exact (h statement hstatement).2
  · exact List.forall₂_map_left_iff.2 (List.forall₂_same.2 fun statement hstatement =>
      (h statement hstatement).1)

/-- What has been read can be written out: the text is the one that was read, but for a semicolon
behind it. -/
theorem chars_of_parseAt {operand : String} {start : Nat} {s : List Char} {statements : Condition}
    (h : parseAt operand start s = .ok statements) :
    (s = chars statements ∨ s = chars statements ++ [';']) ∧
      parseAt operand start (chars statements) = .ok statements := by
  obtain ⟨parts, ⟨hne, hsep, hs⟩, hspells⟩ := parseAt_eq_ok.1 h
  have hchars : [';'].intercalate parts = chars statements := by
    rw [chars, ← hspells.eq_map_chars]
  refine ⟨hchars ▸ hs, parseAt_eq_ok.2 ⟨parts, ⟨hne, hsep, .inl hchars.symm⟩, hspells⟩⟩

/-- Two conditions with a semicolon between them are one condition. -/
theorem parseAt_append {operand operand₁ operand₂ : String} {start start₁ start₂ : Nat}
    {s₁ s₂ : List Char} {first second : Condition} (hlast : s₁.getLast? ≠ some ';')
    (h₁ : parseAt operand₁ start₁ s₁ = .ok first) (h₂ : parseAt operand₂ start₂ s₂ = .ok second) :
    parseAt operand start (s₁ ++ ';' :: s₂) = .ok (first ++ second) := by
  obtain ⟨parts₁, ⟨hne₁, hsep₁, hs₁⟩, hspells₁⟩ := parseAt_eq_ok.1 h₁
  obtain ⟨parts₂, ⟨hne₂, hsep₂, hs₂⟩, hspells₂⟩ := parseAt_eq_ok.1 h₂
  -- the first text does not end with a semicolon, so none was dropped behind it
  obtain rfl : s₁ = [';'].intercalate parts₁ := by
    rcases hs₁ with rfl | rfl
    · rfl
    · simp at hlast
  refine parseAt_eq_ok.2 ⟨parts₁ ++ parts₂, ⟨by simp [hne₁], ?_, ?_⟩,
    List.rel_append hspells₁ hspells₂⟩
  · intro part hpart
    rcases List.mem_append.1 hpart with hpart | hpart
    · exact hsep₁ part hpart
    · exact hsep₂ part hpart
  · rw [Text.intercalate_append hne₁ hne₂]
    rcases hs₂ with rfl | rfl
    · exact .inl rfl
    · exact .inr (by simp)

end Condition

open Condition in
/-- The reader of conditions accepts the texts of the grammar and no others, wherever they stand in
an operand. It gives the statements that the parts spell, so a condition that is written out is read
back. Two conditions with a semicolon between them are one: its value is the conjunction, of which
the second half is not read when the first does not hold, and what the model lacks for the second
is reported behind what it lacks for the first. -/
theorem condition_grammar :
    (∀ (operand : String) (start : Nat) (s : List Char),
      (∃ statements, parseAt operand start s = .ok statements) ↔
        ∃ parts, ConsistsOf s parts ∧
          ∀ part ∈ parts, ∃ statement, Statement.Spells part statement) ∧
    (∀ (operand : String) (start : Nat) (s : List Char) (statements : Condition),
      parseAt operand start s = .ok statements ↔
        ∃ parts, ConsistsOf s parts ∧ Spell parts statements) ∧
    (∀ (operand : String) (start : Nat) (s : List Char) (statements : Condition),
      parseAt operand start s = .ok statements →
        (s = chars statements ∨ s = chars statements ++ [';']) ∧
          parseAt operand start (chars statements) = .ok statements) ∧
    (∀ (operand : String) (start : Nat) (statements : Condition), statements ≠ [] →
      (∀ statement ∈ statements,
        Statement.Spells statement.chars statement ∧ ';' ∉ statement.chars) →
      parseAt operand start (chars statements) = .ok statements) ∧
    (∀ (first second : Condition) (e₁ e₂ : String), ¬ e₁.toList.getLast? = some ';' →
      Condition.parse e₁ = .ok first → Condition.parse e₂ = .ok second →
      Condition.parse (e₁ ++ ";" ++ e₂) = .ok (first ++ second) ∧
        ∀ model scope : Value, Condition.holds model scope (first ++ second) = (do
          let (held, lacking) ← Condition.holds model scope first
          if held then
            let (heldLater, lackingLater) ← Condition.holds model scope second
            return (heldLater, lacking ++ lackingLater)
          else return (false, lacking))) := by
  refine ⟨fun operand start s => ?_, fun _ _ _ _ => parseAt_eq_ok, fun _ _ _ _ => chars_of_parseAt,
    fun operand start _ hne h => parseAt_chars operand start hne h, ?_⟩
  · constructor
    · rintro ⟨statements, hparse⟩
      obtain ⟨parts, hconsists, hspells⟩ := parseAt_eq_ok.1 hparse
      exact ⟨parts, hconsists, hspells.exists_statement⟩
    · rintro ⟨parts, hconsists, hparts⟩
      obtain ⟨statements, hspells⟩ := exists_spell hparts
      exact ⟨statements, parseAt_eq_ok.2 ⟨parts, hconsists, hspells⟩⟩
  · intro first second e₁ e₂ hlast h₁ h₂
    have htext : (e₁ ++ ";" ++ e₂).toList = e₁.toList ++ ';' :: e₂.toList := by simp
    refine ⟨?_, fun model scope => holds_append model scope first second⟩
    rw [Condition.parse, htext]
    exact parseAt_append hlast h₁ h₂

/-- A path and a number below a bound, behind an exclamation mark and with a last semicolon, are
joined. -/
theorem condition_grammar_joined :
    ∃ statement, Condition.parse "user.name" = .ok [⟨false, "user.name", .present⟩] ∧
      Condition.parse "!age<18;" = .ok [statement] ∧
      Condition.parse "user.name;!age<18;" = .ok [⟨false, "user.name", .present⟩, statement] := by
  have hname : Condition.parse "user.name" = .ok [⟨false, "user.name", .present⟩] := rfl
  obtain ⟨statement, hage⟩ : ∃ statement, Condition.parse "!age<18;" = .ok [statement] := ⟨_, rfl⟩
  have hjoin : "user.name" ++ ";" ++ "!age<18;" = "user.name;!age<18;" := by decide
  obtain ⟨-, -, -, -, happend⟩ := condition_grammar
  exact ⟨statement, hname, hage,
    hjoin ▸ (happend _ _ "user.name" "!age<18;" (by decide) hname hage).1⟩

end TreeTemplate
