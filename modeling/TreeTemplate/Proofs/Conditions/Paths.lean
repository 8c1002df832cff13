import TreeTemplate.Proofs.Conditions.Grammar
import TreeTemplate.Proofs.Courses.Alike
import TreeTemplate.Proofs.Paths.Joined
import TreeTemplate.Walk.Visibility

/-!
# Paths as conditions

A path by itself is a condition, and an exclamation mark before it turns the condition round. But
paths and conditions have sets of characters of their own: the names in a path may hold whatever
continues an identifier, the paths in a condition letters and numbers only. A path with a combining
mark or a middle dot is therefore no condition. With the characters of ASCII there is no difference.

Main statements:

* `Condition.parse_path_iff` — which paths can be read as conditions;
* `Condition.holds_path` — what a path evaluates to;
* `condition_of_path` — both, up to what the operator does.
-/

namespace TreeTemplate

namespace Path

variable {operand : String} {path : Path} {c : Char}

/-- A path is made of dots and of the characters of segments. -/
lemma mem_of_parse (h : parse operand = .ok path) (hc : c ∈ operand.toList) :
    c = '.' ∨ isSegmentChar c = true := by
  have hmem : ∀ {start s names}, segments operand start s = .ok names → c ∈ s →
      c = '.' ∨ isSegmentChar c = true := by
    intro start s names hsegments hs
    obtain ⟨hpieces, -⟩ := segments_eq_ok.1 hsegments
    have hsplit : c = '.' ∨ ∃ piece ∈ Text.split '.' s, c ∈ piece := Text.mem_split hs
    rcases hsplit with rfl | ⟨piece, hpiece, hcpiece⟩
    · exact .inl rfl
    · have hsegment := hpieces piece hpiece
      simp only [isSegment, Bool.and_eq_true, List.all_eq_true] at hsegment
      exact .inr (hsegment.2 c hcpiece)
  rcases parse_cases h with
    ⟨rfl, -⟩ | ⟨s, names, hchars, -, hsegments, -⟩ | ⟨d, s, names, hchars, -, hsegments, -⟩
  · exact .inl (by simpa using hc)
  · rw [hchars] at hc
    rcases List.mem_cons.1 hc with rfl | hc
    · exact .inl rfl
    · exact hmem hsegments hc
  · exact hmem hsegments (hchars ▸ hc)

/-- What is no character of a segment, and no dot, does not stand in a path. -/
lemma notMem_of_parse (h : parse operand = .ok path) (hdot : c ≠ '.')
    (hc : isSegmentChar c = false) : c ∉ operand.toList := by
  intro hmem
  rcases mem_of_parse h hmem with rfl | hsegment
  · exact hdot rfl
  · rw [hc] at hsegment
    cases hsegment

/-- A path is not empty. -/
lemma chars_ne_nil (h : parse operand = .ok path) : operand.toList ≠ [] := by
  rcases parse_cases h with ⟨rfl, -⟩ | ⟨s, _, hchars, -⟩ | ⟨c, s, _, hchars, -⟩
  · simp
  · simp [hchars]
  · simp [hchars]

end Path

/-! ### Reading -/

namespace Statement

/-- The mark that turns a statement round. -/
def mark (negated : Bool) : String :=
  if negated then "!" else ""

variable {operand : String} {path : Path} {negated : Bool}

/-- Behind its mark a path is a statement just when all of its characters may stand there. -/
lemma parseBody_path_iff {text : String} {start : Nat} (h : Path.parse operand = .ok path) :
    (∃ s, parseBody text negated start operand.toList = .ok s) ↔
      ∀ c ∈ operand.toList, isPathChar c = true := by
  constructor
  · rintro ⟨s, hs⟩
    obtain ⟨run, tail, test, hrun, -, hchars, htest, -⟩ := parseBody_eq_ok.1 hs
    -- whatever could follow the run begins with a sign that no path holds
    have hsign : ∀ c, c ≠ '.' → Path.isSegmentChar c = false → c ∉ tail := by
      intro c hdot hc hmem
      refine Path.notMem_of_parse h hdot hc ?_
      rw [hrun]
      exact List.mem_append_right run hmem
    cases htest with
    | present => simpa [hrun] using hchars
    | equals literal => exact absurd List.mem_cons_self (hsign '=' (by decide) (by decide))
    | below literal => exact absurd List.mem_cons_self (hsign '<' (by decide) (by decide))
    | above literal => exact absurd List.mem_cons_self (hsign '>' (by decide) (by decide))
  · intro hchars
    exact ⟨_, parseBody_eq_ok.2 ⟨operand.toList, [], .present, by simp, Path.chars_ne_nil h, hchars,
      .present, rfl⟩⟩

/-- A path that holds nothing but the characters for one is read as a statement that something is
present. -/
lemma parseBody_path {text : String} {start : Nat} (h : Path.parse operand = .ok path)
    (hchars : ∀ c ∈ operand.toList, isPathChar c = true) :
    parseBody text negated start operand.toList = .ok ⟨negated, operand, .present⟩ :=
  parseBody_eq_ok.2 ⟨operand.toList, [], .present, by simp, Path.chars_ne_nil h, hchars, .present,
    by simp⟩

end Statement

namespace Condition

variable {operand : String} {path : Path} {model scope : Value}

/-- A text without a semicolon is read as one statement. -/
lemma parseAt_single {text : String} {start : Nat} {s : List Char} (h : ';' ∉ s) :
    parseAt text start s = (Statement.parse text ⟨start, s⟩).map ([·]) := by
  have hpieces : statementPieces start s = [⟨start, s⟩] := by
    simp [statementPieces, Text.split_of_notMem h, Text.placeFrom]
  rw [parseAt, hpieces, List.mapM_cons]
  cases Statement.parse text ⟨start, s⟩ <;> rfl

/-- A path with or without a mark is read as one statement. -/
lemma parse_marked (h : Path.parse operand = .ok path) (negated : Bool) :
    parse (Statement.mark negated ++ operand) =
      (Statement.parseBody (Statement.mark negated ++ operand) negated
        (if negated then 1 else 0) operand.toList).map ([·]) := by
  have hnone : ';' ∉ operand.toList := Path.notMem_of_parse h (by decide) (by decide)
  cases negated with
  | true =>
    have hchars : (Statement.mark true ++ operand).toList = '!' :: operand.toList := by
      simp [Statement.mark]
    rw [parse, hchars, parseAt_single (by simp [hnone]), Statement.parse_negated]
    rfl
  | false =>
    have hchars : (Statement.mark false ++ operand).toList = operand.toList := by
      simp [Statement.mark]
    have hhead : operand.toList.head? ≠ some '!' := fun hhead =>
      Path.notMem_of_parse h (by decide) (by decide) (List.mem_of_head? hhead)
    rw [parse, hchars, parseAt_single hnone, Statement.parse_plain _ _ hhead]
    rfl

/-- A path is read as a condition just when all of its characters may stand in a condition. -/
theorem parse_path_iff (h : Path.parse operand = .ok path) (negated : Bool) :
    (∃ condition, parse (Statement.mark negated ++ operand) = .ok condition) ↔
      ∀ c ∈ operand.toList, Statement.isPathChar c = true := by
  rw [parse_marked h, ← Statement.parseBody_path_iff h]
  cases Statement.parseBody (Statement.mark negated ++ operand) negated
      (if negated then 1 else 0) operand.toList with
  | error error => simp [Except.map]
  | ok s => simp [Except.map]

/-- A path that holds nothing but the characters for one is read as a condition. -/
lemma parse_path (h : Path.parse operand = .ok path)
    (hchars : ∀ c ∈ operand.toList, Statement.isPathChar c = true) (negated : Bool) :
    parse (Statement.mark negated ++ operand) = .ok [⟨negated, operand, .present⟩] := by
  rw [parse_marked h, Statement.parseBody_path h hchars]
  rfl

/-! ### Evaluation -/

/-- Whether there is something at a path, and what the model lacks for the answer. -/
def presence (model scope : Value) (operand : String) : Bool × List Cause :=
  match Path.read model scope operand with
  | .ok value => (value.isTruthy, [])
  | .error cause => (false, [cause])

/-- To be there is to be truthy, which null is not. -/
lemma passes_present (value : Value) : Test.passes value .present = value.isTruthy := by
  cases value <;> simp [Test.passes, Value.isNull, Value.isTruthy, Value.isEmpty]

/-- In a scope that has properties a path evaluates to the truth of what it names. -/
theorem holds_path (h : Path.parse operand = .ok path) (hscope : scope.isComposite = true)
    (negated : Bool) : holds model scope [⟨negated, operand, .present⟩] =
      .ok ((presence model scope operand).1 != negated, (presence model scope operand).2) := by
  have hstatement : Statement.holds model scope ⟨negated, operand, .present⟩ =
      .ok ((presence model scope operand).1 != negated, (presence model scope operand).2) := by
    cases hread : Path.read model scope operand with
    | ok value => simp [Statement.holds, presence, hread, passes_present]
    | error cause =>
      have hcause : cause.faultClass = .content := Path.read_lacks hscope h hread
      simp [Statement.holds, presence, hread, hcause, passes_present, Value.isTruthy, Value.isEmpty]
  rw [holds, hstatement]
  cases ((presence model scope operand).1 != negated) <;>
    simp [holds, bind, Except.bind, pure, Except.pure]

/-- Only what the model lacks is reported. -/
lemma presence_lacking (h : Path.parse operand = .ok path) (hscope : scope.isComposite = true) :
    ∀ cause ∈ (presence model scope operand).2, cause.faultClass = .content :=
  lacking_class (holds_path h hscope false)

end Condition

/-- Every character of ASCII that may stand in a segment may stand in a condition. -/
lemma Statement.isPathChar_of_ascii {c : Char} (hc : c.toNat < 128)
    (h : Path.isSegmentChar c = true) : isPathChar c = true := by
  have hall : ∀ n : Fin 128, Path.isSegmentChar (Char.ofNat n) = true →
      isPathChar (Char.ofNat n) = true := by decide
  simpa using hall ⟨c.toNat, hc⟩ (by simpa using h)

/-! ### The operator -/

namespace ConditionalOperator

variable {c : Setting} {n : NodeId} {scope : Value} {operand : String} {path : Path}
  {s : Walk.State} {t : Tree NodeId}

/-- An element with a path as its condition is shown or hidden, and what the model lacks for the
path is recorded. -/
lemma run_path (h : Path.parse operand = .ok path)
    (hchars : ∀ c ∈ operand.toList, Statement.isPathChar c = true)
    (hscope : scope.isComposite = true) (hn : s.document.find? n = some t) (negated : Bool) :
    condition.run c n scope (Statement.mark negated ++ operand) s =
      (.ok (if (Condition.presence c.model scope operand).1 != negated then .shown else .hidden),
        { s with diagnostics := s.diagnostics ++
            (Condition.presence c.model scope operand).2.map (.ofSite
              ⟨.conditional .condition, t.describe, Statement.mark negated ++ operand⟩) }) := by
  have hlacking : ∀ cause ∈ (Condition.presence c.model scope operand).2,
      cause.faultClass = .content := Condition.presence_lacking h hscope
  have hrecover : (Condition.presence c.model scope operand).2.forM
      (Walk.recover n (.conditional .condition) (Statement.mark negated ++ operand)) s =
        (.ok (), { s with diagnostics := s.diagnostics ++
          (Condition.presence c.model scope operand).2.map (.ofSite
            ⟨.conditional .condition, t.describe, Statement.mark negated ++ operand⟩) }) :=
    Walk.Alike.run_forM_recover hn hlacking
  simp only [run, Condition.parse_path h hchars negated, Walk.checkOperand_ok_bind,
    Condition.holds_path h hscope negated, Walk.check_ok_bind]
  rw [Walk.run_bind_of_ok hrecover]
  rfl

end ConditionalOperator

/-- A path, with an exclamation mark before it or not, is a condition just when all of its
characters may stand in a condition; every path in ASCII is. Then it evaluates to the truth of the
value that it names, turned round by the mark. What is undefined counts as null and is reported
once, and nothing else is. The operator shows and hides elements accordingly. -/
theorem condition_of_path (operand : String) (path : Path) (h : Path.parse operand = .ok path)
    (negated : Bool) :
    ((∃ condition, Condition.parse (Statement.mark negated ++ operand) = .ok condition) ↔
      ∀ c ∈ operand.toList, Statement.isPathChar c = true) ∧
    ((∀ c ∈ operand.toList, c.toNat < 128) →
      ∀ c ∈ operand.toList, Statement.isPathChar c = true) ∧
    ((∀ c ∈ operand.toList, Statement.isPathChar c = true) →
      Condition.parse (Statement.mark negated ++ operand) =
        .ok [⟨negated, operand, .present⟩] ∧
      ∀ (c : Setting) (scope : Value), scope.isComposite = true →
        ((∃ value, Path.read c.model scope operand = .ok value ∧
            Condition.holds c.model scope [⟨negated, operand, .present⟩] =
              .ok (value.isTruthy != negated, []) ∧
            ∀ n s t, s.document.find? n = some t →
              ConditionalOperator.condition.run c n scope (Statement.mark negated ++ operand) s =
                (.ok (if value.isTruthy != negated then .shown else .hidden), s)) ∨
          (∃ cause, Path.read c.model scope operand = .error cause ∧
            cause.faultClass = .content ∧
            Condition.holds c.model scope [⟨negated, operand, .present⟩] =
              .ok (negated, [cause]) ∧
            ∀ n s t, s.document.find? n = some t →
              ConditionalOperator.condition.run c n scope (Statement.mark negated ++ operand) s =
                (.ok (if negated then .shown else .hidden), { s with diagnostics := s.diagnostics ++
                  [⟨cause, some ⟨.conditional .condition, t.describe,
                    Statement.mark negated ++ operand⟩⟩] })))) := by
  refine ⟨Condition.parse_path_iff h negated, fun hascii c hc => ?_, fun hchars =>
    ⟨Condition.parse_path h hchars negated, fun c scope hscope => ?_⟩⟩
  · rcases Path.mem_of_parse h hc with rfl | hsegment
    · rfl
    · exact Statement.isPathChar_of_ascii (hascii c hc) hsegment
  · have hholds : Condition.holds c.model scope [⟨negated, operand, .present⟩] =
        .ok ((Condition.presence c.model scope operand).1 != negated,
          (Condition.presence c.model scope operand).2) :=
      Condition.holds_path h hscope negated
    have hrun := fun (n : NodeId) (s : Walk.State) (t : Tree NodeId)
        (hn : s.document.find? n = some t) =>
      ConditionalOperator.run_path (c := c) h hchars hscope hn negated
    cases hread : Path.read c.model scope operand with
    | ok value =>
      have hpresence : Condition.presence c.model scope operand = (value.isTruthy, []) := by
        simp only [Condition.presence, hread]
      rw [hpresence] at hholds hrun
      refine .inl ⟨value, rfl, hholds, fun n s t hn => (hrun n s t hn).trans ?_⟩
      rw [List.map_nil, List.append_nil]
    | error cause =>
      have hpresence : Condition.presence c.model scope operand = (false, [cause]) := by
        simp only [Condition.presence, hread]
      rw [hpresence, Bool.false_bne] at hholds hrun
      exact .inr ⟨cause, rfl, Path.read_lacks hscope h hread, hholds, hrun⟩

/-- A path of letters beyond the first 128 characters, a digit and signs names nothing in an empty
map, so the condition that is turned round holds. -/
theorem condition_of_path_missing :
    Condition.parse "!.größe-2._x" = .ok [⟨true, ".größe-2._x", .present⟩] ∧
      Condition.holds (.map []) (.list []) [⟨true, ".größe-2._x", .present⟩] =
        .ok (true, [.undefinedProperty "größe-2"]) := by
  have hpath : Path.parse ".größe-2._x" = .ok (.absolute ["größe-2", "_x"]) := rfl
  have hchars : ∀ c ∈ ".größe-2._x".toList, Statement.isPathChar c = true :=
    List.all_eq_true.1 rfl
  obtain ⟨-, -, hall⟩ := condition_of_path _ _ hpath true
  obtain ⟨hparse, hholds⟩ := hall hchars
  refine ⟨hparse, ?_⟩
  rcases hholds ⟨{}, .map []⟩ (.list []) rfl with ⟨value, hread, -⟩ | ⟨cause, hread, -, hholds, -⟩
  · cases hread
  · obtain rfl : Cause.undefinedProperty "größe-2" = cause := by
      have hcause : Path.read (.map []) (.list []) ".größe-2._x" =
          .error (.undefinedProperty "größe-2") := rfl
      exact Except.error.inj (hcause.symm.trans hread)
    exact hholds

/-- A middle dot continues an identifier and is no letter: a path with one in it names a value, and
is refused as a condition. -/
theorem condition_of_path_dotted :
    Path.parse "l·l" = .ok (.relative ["l·l"]) ∧
      Condition.parse "l·l" = .error ⟨.expectedComparison, "l·l", ⟨1, 3⟩⟩ ∧
      Condition.parse "!l·l" = .error ⟨.expectedComparison, "!l·l", ⟨2, 4⟩⟩ :=
  ⟨rfl, rfl, rfl⟩

end TreeTemplate
