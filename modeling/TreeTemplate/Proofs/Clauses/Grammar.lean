import Mathlib.Data.List.Forall2
import Mathlib.Data.Set.List
import TreeTemplate.Proofs.Text.Blanks
import TreeTemplate.Proofs.Text.Places

/-!
# The grammar of clauses

What a list of clauses looks like, told without its reader: parts with semicolons between them, and
behind them perhaps one more semicolon and blanks. A part has a name and perhaps a value behind a
colon, each with blanks around it. The reader accepts the texts of the grammar and no others, and it
gives one clause for each part, with the place of its name.

Main statements:

* `Clause.ofPiece_eq_ok` — a part is read as a clause just when it spells it;
* `Clause.parse_eq_ok` — an operand is read just when it is a list of spelled clauses;
* `clause_lists` — which operands are read, what is found in them, and that clauses which are
  written out with any blanks are read back.
-/

namespace TreeTemplate

namespace Text

variable {sep : Char} {s before after : List Char}

/-- A text is not split where the separator is not in it. -/
lemma splitOnce_eq_none : splitOnce sep s = none ↔ sep ∉ s := by
  induction s with
  | nil => simp [splitOnce]
  | cons c s ih =>
    by_cases hc : c = sep
    · simp [splitOnce, hc]
    · simp [splitOnce, hc, Ne.symm hc, ih]

/-- A text is split at the first separator. -/
lemma splitOnce_eq_some : splitOnce sep s = some (before, after) ↔
    s = before ++ sep :: after ∧ sep ∉ before := by
  induction s generalizing before after with
  | nil => simp [splitOnce]
  | cons c s ih =>
    by_cases hc : c = sep
    · cases before with
      | nil => simp [splitOnce, hc]
      | cons d before =>
        simp only [splitOnce, hc, if_true]
        constructor
        · intro h
          cases h
        · rintro ⟨h, hfirst⟩
          cases h
          exact absurd List.mem_cons_self hfirst
    · cases before with
      | nil => simp [splitOnce, hc]
      | cons d before =>
        simp only [splitOnce, hc, if_false, Option.map_eq_some_iff, Prod.exists, ih]
        constructor
        · rintro ⟨first, later, ⟨rfl, hfirst⟩, h⟩
          cases h
          exact ⟨rfl, by simp [hfirst, Ne.symm hc]⟩
        · rintro ⟨h, hfirst⟩
          cases h
          exact ⟨before, after, ⟨rfl, fun hmem => hfirst (List.mem_cons_of_mem _ hmem)⟩, rfl⟩

end Text

namespace Clause

/-! ### Clauses as they are written -/

/-- A clause as it is written: a name, and a value or none, with blanks around them. -/
structure Spelling where
  name : Text.Padded
  value? : Option Text.Padded
  name_colon : ':' ∉ name.core
  name_semicolon : ';' ∉ name.core
  value_semicolon : ∀ value ∈ value?, ';' ∉ value.core

namespace Spelling

/-- The characters of a clause. -/
def chars (p : Spelling) : List Char :=
  p.name.chars ++ match p.value? with
    | none => []
    | some value => ':' :: value.chars

/-- The name and the value of a clause. -/
def content (p : Spelling) : String × Option String :=
  (String.ofList p.name.core, p.value?.map fun value => String.ofList value.core)

/-- The clause at a place of an operand. -/
def clause (p : Spelling) (start : Nat) : Clause :=
  ⟨p.content.1, p.content.2, start + Text.bytes p.name.before⟩

variable (p : Spelling)

/-- The name of a clause has no colon in it. -/
lemma colon_notMem_name : ':' ∉ p.name.chars :=
  (p.name.mem_chars (by decide)).not.2 p.name_colon

/-- A clause has no semicolon in it. -/
lemma semicolon_notMem_chars : ';' ∉ p.chars := by
  have hname : ';' ∉ p.name.chars := (p.name.mem_chars (by decide)).not.2 p.name_semicolon
  have hvalue := p.value_semicolon
  unfold chars
  cases h : p.value? with
  | none => simpa using hname
  | some value =>
    have hchars : ';' ∉ value.chars :=
      (value.mem_chars (by decide)).not.2 (hvalue value (by simp [h]))
    simp [hname, hchars]

/-- A clause is not blank. -/
lemma allBlank_chars : Text.allBlank p.chars = false := by
  rw [chars, Text.allBlank, List.all_append, ← Text.allBlank, p.name.allBlank_chars,
    Bool.false_and]

/-- The blanks before a name are those before the clause. -/
lemma bytes_before :
    Text.bytes p.chars - Text.bytes (Text.trimStart p.chars) = Text.bytes p.name.before := by
  obtain ⟨tail, htail⟩ : ∃ tail, p.chars = p.name.before ++ (p.name.core ++ tail) := by
    unfold chars
    cases p.value? with
    | none => exact ⟨p.name.after, by simp [Text.Padded.chars]⟩
    | some value => exact ⟨p.name.after ++ ':' :: value.chars, by simp [Text.Padded.chars]⟩
  rw [htail, Text.trimStart_append p.name.blank_before (p.name.trimmed.head_append tail)]
  simp

end Spelling

/-! ### Reading a clause -/

variable {operand : String} {start : Nat} {part name value : List Char} {clause : Clause}
  {clauses : List Clause}

/-- A part without a colon is a name. -/
lemma ofPiece_bare (h : ':' ∉ part) : ofPiece operand ⟨start, part⟩ =
    if Text.allBlank part then .error ⟨.emptyName, operand, characterAt operand start⟩
    else .ok ⟨String.ofList (Text.trim part), none,
      start + (Text.bytes part - Text.bytes (Text.trimStart part))⟩ := by
  simp only [ofPiece, Text.splitOnce_eq_none.2 h, bind, Except.bind, Text.isEmpty_trim]

/-- A part with a colon is a name and a value. -/
lemma ofPiece_valued (h : ':' ∉ name) : ofPiece operand ⟨start, name ++ ':' :: value⟩ =
    if Text.allBlank value then
      .error ⟨.emptyValue, operand, ⟨start + Text.bytes name, start + Text.bytes name + 1⟩⟩
    else if Text.allBlank name then .error ⟨.emptyName, operand, characterAt operand start⟩
    else .ok ⟨String.ofList (Text.trim name), some (String.ofList (Text.trim value)),
      start + (Text.bytes (name ++ ':' :: value) -
        Text.bytes (Text.trimStart (name ++ ':' :: value)))⟩ := by
  simp only [ofPiece, Text.splitOnce_eq_some.2 ⟨rfl, h⟩, bind, Except.bind]
  split
  · rfl
  · simp only [Text.isEmpty_trim]

/-- Every text is a name alone, or a name and a value behind a colon. -/
lemma exists_name (part : List Char) :
    ':' ∉ part ∨ ∃ name value, part = name ++ ':' :: value ∧ ':' ∉ name := by
  cases h : Text.splitOnce ':' part with
  | none => exact .inl (Text.splitOnce_eq_none.1 h)
  | some cut => exact .inr ⟨cut.1, cut.2, Text.splitOnce_eq_some.1 h⟩

/-- A clause that is written out is read. -/
lemma ofPiece_chars (p : Spelling) :
    ofPiece operand ⟨start, p.chars⟩ = .ok (p.clause start) := by
  have hbefore := p.bytes_before
  cases h : p.value? with
  | none =>
    have hchars : p.chars = p.name.chars := by simp [Spelling.chars, h]
    rw [hchars] at hbefore ⊢
    rw [ofPiece_bare p.colon_notMem_name, hbefore, p.name.allBlank_chars, p.name.trim_chars]
    simp [Spelling.clause, Spelling.content, h]
  | some value =>
    have hchars : p.chars = p.name.chars ++ ':' :: value.chars := by simp [Spelling.chars, h]
    rw [hchars] at hbefore ⊢
    rw [ofPiece_valued p.colon_notMem_name, hbefore, p.name.allBlank_chars, p.name.trim_chars,
      value.allBlank_chars, value.trim_chars]
    simp [Spelling.clause, Spelling.content, h]

/-- What a part of an operand looks like that is a clause: it has a name, and behind its first
colon, if it has one, a value. -/
inductive IsClause : List Char → Prop
  | bare (name : List Char) (hcolon : ':' ∉ name) (hname : Text.allBlank name = false) :
      IsClause name
  | valued (name value : List Char) (hcolon : ':' ∉ name) (hname : Text.allBlank name = false)
      (hvalue : Text.allBlank value = false) : IsClause (name ++ ':' :: value)

/-- What is written for a clause looks like one. -/
lemma Spelling.isClause (p : Spelling) : IsClause p.chars := by
  unfold chars
  cases p.value? with
  | none => simpa using IsClause.bare _ p.colon_notMem_name p.name.allBlank_chars
  | some value => exact .valued _ _ p.colon_notMem_name p.name.allBlank_chars value.allBlank_chars

/-- A part that is a clause can be written out. -/
lemma IsClause.exists_spelling (h : IsClause part) (hpart : ';' ∉ part) :
    ∃ p : Spelling, part = p.chars := by
  cases h with
  | bare name hcolon hname =>
    obtain ⟨core, rfl⟩ := Text.exists_padded hname
    exact ⟨{
      name := core
      value? := none
      name_colon := (core.mem_chars (by decide)).not.1 hcolon
      name_semicolon := (core.mem_chars (by decide)).not.1 hpart
      value_semicolon := by simp }, by simp [Spelling.chars]⟩
  | valued name value hcolon hname hvalue =>
    obtain ⟨core, rfl⟩ := Text.exists_padded hname
    obtain ⟨inner, rfl⟩ := Text.exists_padded hvalue
    simp only [List.mem_append, List.mem_cons, not_or] at hpart
    exact ⟨{
      name := core
      value? := some inner
      name_colon := (core.mem_chars (by decide)).not.1 hcolon
      name_semicolon := (core.mem_chars (by decide)).not.1 hpart.1
      value_semicolon := by simpa using (inner.mem_chars (by decide)).not.1 hpart.2.2 }, rfl⟩

/-- A part of an operand that is read as a clause looks like one. -/
lemma isClause_of_ofPiece (h : ofPiece operand ⟨start, part⟩ = .ok clause) : IsClause part := by
  rcases exists_name part with hcolon | ⟨name, value, rfl, hcolon⟩
  · rw [ofPiece_bare hcolon] at h
    split at h
    · cases h
    · rename_i hname
      exact .bare part hcolon (by simpa using hname)
  · rw [ofPiece_valued hcolon] at h
    split at h
    · cases h
    · split at h
      · cases h
      · rename_i hvalue hname
        exact .valued name value hcolon (by simpa using hname) (by simpa using hvalue)

/-- A part of an operand is read as a clause just when it spells it. -/
theorem ofPiece_eq_ok (hpart : ';' ∉ part) : ofPiece operand ⟨start, part⟩ = .ok clause ↔
    ∃ p : Spelling, part = p.chars ∧ clause = p.clause start := by
  constructor
  · intro h
    obtain ⟨p, rfl⟩ := (isClause_of_ofPiece h).exists_spelling hpart
    rw [ofPiece_chars p] at h
    cases h
    exact ⟨p, rfl, rfl⟩
  · rintro ⟨p, rfl, rfl⟩
    exact ofPiece_chars p

/-! ### Reading a list of clauses -/

/-- Clauses that are written out from a place on, with a semicolon behind each. -/
def clausesFrom (start : Nat) : List Spelling → List Clause
  | [] => []
  | p :: later => p.clause start :: clausesFrom (start + Text.bytes p.chars + 1) later

/-- Nothing, or a semicolon and blanks. -/
def IsEnding (ending : List Char) : Prop :=
  ending = [] ∨ ∃ blank, Text.allBlank blank = true ∧ ending = ';' :: blank

/-- A text is made of parts, with semicolons between them and perhaps one more and blanks behind
them. -/
def ConsistsOf (s : List Char) (parts : List (List Char)) : Prop :=
  parts ≠ [] ∧ (∀ part ∈ parts, ';' ∉ part) ∧
    ∃ ending, IsEnding ending ∧ s = [';'].intercalate parts ++ ending

/-- A part that is not blank is read as a clause in front of the others. -/
lemma ofPieces_of_not_blank {pieces : List Text.Piece} (h : Text.allBlank part = false) :
    ofPieces operand (⟨start, part⟩ :: pieces) = (do
      let clause ← ofPiece operand ⟨start, part⟩
      return clause :: (← ofPieces operand pieces)) := by
  rw [ofPieces, h]
  rfl

/-- Clauses that are written out are read, also where a blank piece follows them. -/
lemma ofPieces_chars (ps : List Spelling) {last : List (List Char)}
    (hlast : last = [] ∨ ∃ blank, Text.allBlank blank = true ∧ last = [blank]) :
    ofPieces operand (Text.placeFrom start (ps.map Spelling.chars ++ last)) =
      .ok (clausesFrom start ps) := by
  induction ps generalizing start with
  | nil =>
    rcases hlast with rfl | ⟨blank, hblank, rfl⟩
    · rfl
    · simp [Text.placeFrom, ofPieces, hblank, clausesFrom]
  | cons p ps ih =>
    rw [List.map_cons, List.cons_append, Text.placeFrom, ofPieces_of_not_blank p.allBlank_chars,
      ofPiece_chars, ih]
    rfl

/-- Pieces that are read are clauses that are written out, and perhaps a blank piece behind them. -/
lemma exists_spellings {parts : List (List Char)} (hparts : ∀ part ∈ parts, ';' ∉ part)
    (h : ofPieces operand (Text.placeFrom start parts) = .ok clauses) :
    ∃ (ps : List Spelling) (last : List (List Char)), parts = ps.map Spelling.chars ++ last ∧
      (last = [] ∨ ∃ blank, Text.allBlank blank = true ∧ last = [blank]) := by
  induction parts generalizing start clauses with
  | nil => exact ⟨[], [], rfl, .inl rfl⟩
  | cons part parts ih =>
    cases hblank : Text.allBlank part with
    | true =>
      cases parts with
      | nil => exact ⟨[], [part], rfl, .inr ⟨part, hblank, rfl⟩⟩
      | cons next later => simp [Text.placeFrom, ofPieces, hblank] at h
    | false =>
      rw [Text.placeFrom, ofPieces_of_not_blank hblank] at h
      cases hfirst : ofPiece operand ⟨start, part⟩ with
      | error error =>
        rw [hfirst] at h
        cases h
      | ok first =>
        cases hlater : ofPieces operand (Text.placeFrom (start + Text.bytes part + 1) parts) with
        | error error =>
          rw [hfirst, hlater] at h
          cases h
        | ok later =>
          obtain ⟨p, rfl⟩ :=
            (isClause_of_ofPiece hfirst).exists_spelling (hparts part List.mem_cons_self)
          obtain ⟨ps, last, rfl, hlast⟩ :=
            ih (fun other hother => hparts other (List.mem_cons_of_mem _ hother)) hlater
          exact ⟨p :: ps, last, rfl, hlast⟩

/-- The pieces of a text are its parts, and perhaps a blank piece behind them. -/
lemma ConsistsOf.exists_split {s : List Char} {parts : List (List Char)} (h : ConsistsOf s parts) :
    ∃ last, Text.split ';' s = parts ++ last ∧
      (last = [] ∨ ∃ blank, Text.allBlank blank = true ∧ last = [blank]) := by
  obtain ⟨hne, hparts, ending, rfl | ⟨blank, hblank, rfl⟩, rfl⟩ := h
  · exact ⟨[], by simpa using Text.split_intercalate hne hparts, .inl rfl⟩
  · have hsemicolon : ';' ∉ blank := Text.notMem_of_allBlank hblank (by decide)
    exact ⟨[blank], by rw [Text.split_append_cons, Text.split_intercalate hne hparts,
      Text.split_of_notMem hsemicolon], .inr ⟨blank, hblank, rfl⟩⟩

/-- A text consists of the parts between its semicolons, if no more than a blank one follows. -/
lemma consistsOf_of_split {s : List Char} {parts last : List (List Char)}
    (h : Text.split ';' s = parts ++ last) (hne : parts ≠ [])
    (hlast : last = [] ∨ ∃ blank, Text.allBlank blank = true ∧ last = [blank]) :
    ConsistsOf s parts := by
  have hjoin := Text.intercalate_split ';' s
  refine ⟨hne, fun part hpart => Text.not_mem_of_mem_split (h ▸ List.mem_append_left last hpart),
    ?_⟩
  rw [h] at hjoin
  rcases hlast with rfl | ⟨blank, hblank, rfl⟩
  · exact ⟨[], .inl rfl, by simpa using hjoin.symm⟩
  · rw [Text.intercalate_append hne (by simp)] at hjoin
    exact ⟨';' :: blank, .inr ⟨blank, hblank, rfl⟩, by simpa using hjoin.symm⟩

/-- An operand is accepted if its parts are read as clauses and there is one. -/
lemma parse_eq_ok_iff_ofPieces : parse operand = .ok clauses ↔
    ofPieces operand (Text.piecesAt ';' operand.toList) = .ok clauses ∧ clauses ≠ [] := by
  rw [parse]
  cases ofPieces operand (Text.piecesAt ';' operand.toList) with
  | error error => simp
  | ok found =>
    cases found with
    | nil =>
      constructor
      · intro h
        cases h
      · rintro ⟨h, hne⟩
        cases h
        exact absurd rfl hne
    | cons first later =>
      constructor
      · intro h
        cases h
        exact ⟨rfl, by simp⟩
      · rintro ⟨h, -⟩
        cases h
        rfl

/-- An operand is read just when it is a list of clauses that are written out. -/
theorem parse_eq_ok : parse operand = .ok clauses ↔
    ∃ ps : List Spelling, ConsistsOf operand.toList (ps.map Spelling.chars) ∧
      clauses = clausesFrom 0 ps := by
  rw [parse_eq_ok_iff_ofPieces, Text.piecesAt]
  constructor
  · rintro ⟨h, hne⟩
    obtain ⟨ps, last, hsplit, hlast⟩ :=
      exists_spellings (fun part hpart => Text.not_mem_of_mem_split hpart) h
    rw [hsplit, ofPieces_chars ps hlast] at h
    cases h
    have hps : ps.map Spelling.chars ≠ [] := by
      intro hnil
      rw [List.map_eq_nil_iff.1 hnil] at hne
      exact hne rfl
    exact ⟨ps, consistsOf_of_split hsplit hps hlast, rfl⟩
  · rintro ⟨ps, hconsists, rfl⟩
    obtain ⟨last, hsplit, hlast⟩ := hconsists.exists_split
    refine ⟨by rw [hsplit, ofPieces_chars ps hlast], ?_⟩
    cases ps with
    | nil => exact absurd rfl hconsists.1
    | cons p ps => simp [clausesFrom]

/-! ### What is read -/

/-- What a part of an operand says: its name without the blanks around it, and so its value. -/
def Says (part : List Char) (clause : Clause) : Prop :=
  (':' ∉ part ∧ clause.name = String.ofList (Text.trim part) ∧ clause.value? = none) ∨
    ∃ name value, part = name ++ ':' :: value ∧ ':' ∉ name ∧
      clause.name = String.ofList (Text.trim name) ∧
      clause.value? = some (String.ofList (Text.trim value))

/-- A clause that is written says what it is the spelling of. -/
lemma Spelling.says_clause (p : Spelling) (start : Nat) : Says p.chars (p.clause start) := by
  unfold chars clause content
  cases p.value? with
  | none => exact .inl ⟨by simpa using p.colon_notMem_name, by simp [p.name.trim_chars], rfl⟩
  | some value =>
    exact .inr ⟨p.name.chars, value.chars, rfl, p.colon_notMem_name, by rw [p.name.trim_chars],
      by rw [value.trim_chars]; rfl⟩

/-- Clauses that are written one after another say what they are the spellings of. -/
lemma says_clausesFrom (start : Nat) (ps : List Spelling) :
    List.Forall₂ Says (ps.map Spelling.chars) (clausesFrom start ps) := by
  induction ps generalizing start with
  | nil => exact .nil
  | cons p ps ih => exact .cons (p.says_clause start) (ih _)

/-- The names and values of clauses do not depend on where they stand. -/
lemma content_clausesFrom (start : Nat) (ps : List Spelling) :
    (clausesFrom start ps).map (fun clause => (clause.name, clause.value?)) =
      ps.map Spelling.content := by
  induction ps generalizing start with
  | nil => rfl
  | cons p ps ih => simp [clausesFrom, ih, Spelling.clause]

/-- The name of a clause stands at its place. -/
lemma Spelling.standsAt_name (p : Spelling) {s : List Char}
    (h : Text.StandsAt s start p.chars) :
    Text.StandsAt s (p.clause start).start (p.clause start).name.toList := by
  have hname : (p.clause start).name.toList = p.name.core := String.toList_ofList
  rw [chars, Text.Padded.chars, List.append_assoc, List.append_assoc] at h
  rw [hname]
  exact h.middle

/-- Each of several clauses is one of the spellings, at the place of its part. -/
lemma exists_of_mem_clausesFrom {ps : List Spelling} (h : clause ∈ clausesFrom start ps) :
    ∃ (p : Spelling) (place : Nat), ⟨place, p.chars⟩ ∈ Text.placeFrom start
    (ps.map Spelling.chars) ∧
      clause = p.clause place := by
  induction ps generalizing start with
  | nil => cases h
  | cons p ps ih =>
    rcases List.mem_cons.1 h with rfl | h
    · exact ⟨p, start, List.mem_cons_self, rfl⟩
    · obtain ⟨q, place, hplace, rfl⟩ := ih h
      exact ⟨q, place, List.mem_cons_of_mem _ hplace, rfl⟩

/-- The names of the clauses of an operand stand at their places. -/
theorem standsAt_name (h : parse operand = .ok clauses) (hclause : clause ∈ clauses) :
    Text.StandsAt operand.toList clause.start clause.name.toList := by
  obtain ⟨ps, ⟨-, -, ending, -, hchars⟩, rfl⟩ := parse_eq_ok.1 h
  obtain ⟨p, place, hplace, rfl⟩ := exists_of_mem_clausesFrom hclause
  have hwhole : Text.StandsAt operand.toList 0 ([';'].intercalate (ps.map Spelling.chars)) := by
    have hself := Text.StandsAt.self operand.toList
    rw [hchars] at hself ⊢
    exact hself.left
  exact p.standsAt_name (hwhole.piece (by decide) hplace)

end Clause

open Clause in
/-- An operand is read as clauses just when it is made of parts that are clauses. Each part gives
one clause, in order, with its name and its value without the blanks around them, and the name is
found in the operand at the place that the clause tells. Clauses that are written out with any
blanks, and perhaps with one more semicolon and blanks behind them, are read back. -/
theorem clause_lists :
    (∀ operand, (∃ clauses, Clause.parse operand = .ok clauses) ↔
      ∃ parts, ConsistsOf operand.toList parts ∧ ∀ part ∈ parts, IsClause part) ∧
    (∀ operand clauses, Clause.parse operand = .ok clauses →
      ∃ parts, ConsistsOf operand.toList parts ∧ (∀ part ∈ parts, IsClause part) ∧
        List.Forall₂ Says parts clauses ∧
        ∀ clause ∈ clauses, Text.StandsAt operand.toList clause.start clause.name.toList ∧
          Text.takeBytes (Text.bytes clause.name.toList)
            (Text.dropBytes clause.start operand.toList) = clause.name.toList) ∧
    (∀ (ps : List Spelling) (ending : List Char), ps ≠ [] → IsEnding ending →
      ∃ clauses, Clause.parse (String.ofList
          ([';'].intercalate (ps.map Spelling.chars) ++ ending)) = .ok clauses ∧
        clauses.map (fun clause => (clause.name, clause.value?)) = ps.map Spelling.content) := by
  have hclauses : ∀ ps : List Spelling, ∀ part ∈ ps.map Spelling.chars, IsClause part := by
    intro ps part hpart
    obtain ⟨p, -, rfl⟩ := List.mem_map.1 hpart
    exact p.isClause
  refine ⟨fun operand => ⟨?_, ?_⟩, ?_, ?_⟩
  · rintro ⟨clauses, h⟩
    obtain ⟨ps, hconsists, -⟩ := parse_eq_ok.1 h
    exact ⟨_, hconsists, hclauses ps⟩
  · rintro ⟨parts, hconsists, hparts⟩
    obtain ⟨ps, rfl⟩ : parts ∈ Set.range (List.map Spelling.chars) := by
      rw [Set.range_list_map]
      intro part hpart
      obtain ⟨p, hp⟩ := (hparts part hpart).exists_spelling (hconsists.2.1 part hpart)
      exact ⟨p, hp.symm⟩
    exact ⟨_, parse_eq_ok.2 ⟨ps, hconsists, rfl⟩⟩
  · intro operand clauses h
    obtain ⟨ps, hconsists, rfl⟩ := parse_eq_ok.1 h
    refine ⟨_, hconsists, hclauses ps, says_clausesFrom 0 ps, fun clause hclause => ?_⟩
    have hname := standsAt_name h hclause
    exact ⟨hname, hname.slice⟩
  · intro ps ending hne hending
    refine ⟨_, parse_eq_ok.2 ⟨ps, ⟨by simpa using hne, ?_, ending, hending, by simp⟩, rfl⟩,
      content_clausesFrom 0 ps⟩
    intro part hpart
    obtain ⟨p, -, rfl⟩ := List.mem_map.1 hpart
    exact p.semicolon_notMem_chars

/-- A value with a colon in it, a name without a value, and blanks of several bytes. -/
theorem clause_lists_padded :
    Clause.parse "größe: a:b ;\u3000!x\u3000; " =
        .ok [⟨"größe", some "a:b", 0⟩, ⟨"!x", none, 17⟩] ∧
      Text.takeBytes 2 (Text.dropBytes 17 "größe: a:b ;\u3000!x\u3000; ".toList) = ['!', 'x'] := by
  have hparse : Clause.parse "größe: a:b ;\u3000!x\u3000; " =
      .ok [⟨"größe", some "a:b", 0⟩, ⟨"!x", none, 17⟩] := rfl
  obtain ⟨-, hread, -⟩ := clause_lists
  obtain ⟨parts, -, -, -, hnames⟩ := hread _ _ hparse
  exact ⟨hparse, (hnames ⟨"!x", none, 17⟩ (by simp)).2⟩

end TreeTemplate
