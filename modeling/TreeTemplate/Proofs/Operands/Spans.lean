import TreeTemplate.Proofs.Clauses.Grammar
import TreeTemplate.Proofs.Conditions.Grammar
import TreeTemplate.Proofs.Local.Causes
import TreeTemplate.Proofs.Numbering.Labels

/-!
# Spans in operands

What is wrong with an operand is told by a span, which is counted up from the places of pieces,
names and signs. It always comes out as the place of a run of characters of the operand. So the
operand can be cut at both ends of the span, and the fault can be shown with its operand underlined.

Main statements:

* `OperandError.PointsInto.showable` — an error that tells the place of a run can be shown;
* `OperandError.RaisedFor.pointsInto` — every error that is raised for an operand does;
* `operand_errors` — every error that is raised for an operand can be shown.
-/

namespace TreeTemplate

namespace OperandError

/-- An error keeps an operand, and tells the place of a run of its characters. -/
structure PointsInto (operand : String) (e : OperandError) : Prop where
  operand_eq : e.operand = operand
  run : ∃ run, Text.StandsAt operand.toList e.span.start run ∧
    e.span.stop = e.span.start + Text.bytes run

/-- What it takes to show an error: its operand can be cut where its span begins and where the span
ends, and nothing is lost when it is put together again from the indented part, the underlined part
and the rest. -/
structure Showable (e : OperandError) : Prop where
  start_le_stop : e.span.start ≤ e.span.stop
  stop_le : e.span.stop ≤ e.operand.utf8ByteSize
  valid_start : (String.Pos.Raw.mk e.span.start).IsValid e.operand
  valid_stop : (String.Pos.Raw.mk e.span.stop).IsValid e.operand
  bytes_before : Text.bytes (Text.takeBytes e.span.start e.operand.toList) = e.span.start
  bytes_marked : Text.bytes e.marked = e.span.stop - e.span.start
  cut : Text.takeBytes e.span.start e.operand.toList ++
    (e.marked ++ Text.dropBytes e.span.stop e.operand.toList) = e.operand.toList

variable {operand : String} {e : OperandError} {fault : OperandFault} {start : Nat}
  {s t run : List Char} {c : Char}

/-- An error that tells the place of a run can be shown. -/
theorem PointsInto.showable (h : PointsInto operand e) : e.Showable := by
  obtain ⟨rfl, run, hrun, hstop⟩ := h
  obtain ⟨hle, hstart, hend⟩ := hrun.isValid
  have hmarked : e.marked = run := by
    rw [marked, hstop, Nat.add_sub_cancel_left, hrun.slice]
  obtain ⟨before, after, hchars, hbefore⟩ := hrun
  have htake : Text.takeBytes e.span.start e.operand.toList = before := by
    rw [hchars, ← hbefore, Text.takeBytes_bytes]
  have hdrop : Text.dropBytes e.span.stop e.operand.toList = after := by
    rw [hchars, hstop, ← hbefore, ← Text.bytes_append, ← List.append_assoc, Text.dropBytes_bytes]
  exact {
    start_le_stop := hstop ▸ Nat.le_add_right _ _
    stop_le := hstop ▸ hle
    valid_start := hstart
    valid_stop := hstop ▸ hend
    bytes_before := htake ▸ hbefore
    bytes_marked := by rw [hmarked, hstop, Nat.add_sub_cancel_left]
    cut := by rw [htake, hmarked, hdrop, hchars] }

namespace PointsInto

/-- The span of a run. -/
lemma of_run (h : Text.StandsAt operand.toList start run) :
    PointsInto operand ⟨fault, operand, ⟨start, start + Text.bytes run⟩⟩ :=
  ⟨rfl, run, h, rfl⟩

/-- The span of a character. -/
lemma of_char (h : Text.StandsAt operand.toList start [c]) :
    PointsInto operand ⟨fault, operand, ⟨start, start + c.utf8Size⟩⟩ :=
  of_run h

/-- The span of the character at a place, or of no character at the end. -/
lemma characterAt (h : Text.StandsAt operand.toList start run) :
    PointsInto operand ⟨fault, operand, characterAt operand start⟩ := by
  obtain ⟨before, after, hchars, rfl⟩ := h
  rw [TreeTemplate.characterAt, hchars, Text.dropBytes_bytes]
  cases hrest : run ++ after with
  | nil =>
    have hend : Text.StandsAt operand.toList (Text.bytes before) [] :=
      ⟨before, [], by rw [hchars, hrest]; rfl, rfl⟩
    exact of_run hend
  | cons c rest => exact of_char ⟨before, rest, by rw [hchars, hrest]; rfl, rfl⟩

end PointsInto

end OperandError

open OperandError

variable {operand : String} {e : OperandError} {start : Nat} {s t : List Char}

/-! ### Paths -/

namespace Path

/-- A stray character stands where its span tells. -/
lemma standsAt_strayCharacter {span : Span} (h : Text.StandsAt operand.toList start s)
    (hstray : strayCharacter? start s = some span) :
    ∃ c, Text.StandsAt operand.toList span.start [c] ∧ span.stop = span.start + c.utf8Size := by
  induction s generalizing start with
  | nil => cases hstray
  | cons c s ih =>
    have hsplit : Text.StandsAt operand.toList start ([c] ++ s) := h
    rw [strayCharacter?] at hstray
    split at hstray
    · exact ih hsplit.right hstray
    · cases hstray
      exact ⟨c, hsplit.left, rfl⟩

/-- The byte of a dot. -/
lemma pointsInto_dot {fault : OperandFault} (h : Text.StandsAt operand.toList start ['.']) :
    PointsInto operand ⟨fault, operand, byteWithin start (Text.bytes operand.toList)⟩ := by
  have hle : start + 1 ≤ Text.bytes operand.toList := by
    rw [Text.bytes_toList]
    exact h.isValid.1
  rw [byteWithin, if_neg (Nat.not_lt.2 hle)]
  exact .of_char h

/-- At the end of an operand the byte before it is told, if there is one. -/
lemma pointsInto_end {fault : OperandFault}
    (h : operand.toList = [] ∨ ∃ t, operand.toList = t ++ ['.']) :
    PointsInto operand ⟨fault, operand,
      byteWithin (Text.bytes operand.toList) (Text.bytes operand.toList)⟩ := by
  rw [byteWithin, if_pos (Nat.lt_succ_self _)]
  rcases h with h | ⟨t, h⟩
  · have hstart : Text.StandsAt operand.toList 0 [] := ⟨[], [], h, rfl⟩
    rw [h]
    exact .of_run hstart
  · have hbytes : Text.bytes operand.toList = Text.bytes t + '.'.utf8Size := by
      rw [h, Text.bytes_append]
      rfl
    rw [hbytes]
    exact .of_char ⟨t, [], h, rfl⟩

/-- The place of an empty segment is told as that of the dot behind it, or of the dot before it if
it is the last one. -/
lemma pointsInto_emptySegment {fault : OperandFault} {before : List Char}
    (h : operand.toList = before ++ s) (hbefore : before = [] ∨ before = ['.']) {p : Text.Piece}
    (hp : p ∈ Text.placeFrom (Text.bytes before) (Text.split '.' s)) (hempty : p.chars = []) :
    PointsInto operand ⟨fault, operand, byteWithin p.start (Text.bytes operand.toList)⟩ := by
  have hdot : '.'.utf8Size = 1 := rfl
  obtain ⟨first, later, hsplit, hstart⟩ := Text.exists_of_mem_placeFrom hdot hp
  have hchars : operand.toList =
      (before ++ first.flatMap (· ++ ['.'])) ++ later.flatMap (['.'] ++ ·) := by
    rw [h, ← Text.intercalate_split '.' s, hsplit, hempty, Text.intercalate_middle]
    simp
  rw [hstart, ← Text.bytes_append]
  cases later with
  | cons next later =>
    exact pointsInto_dot ⟨_, next ++ later.flatMap (['.'] ++ ·), by simpa using hchars, rfl⟩
  | nil =>
    have hend : operand.toList = before ++ first.flatMap (· ++ ['.']) := by simpa using hchars
    rw [← hend]
    apply pointsInto_end
    rcases List.eq_nil_or_concat first with rfl | ⟨init, last, rfl⟩
    · rcases hbefore with rfl | rfl
      · exact .inl hend
      · exact .inr ⟨[], hend⟩
    · exact .inr ⟨before ++ (init.flatMap (· ++ ['.']) ++ last), by rw [hend]; simp⟩

/-- A fault of a segment points into the operand. -/
lemma pointsInto_segments {before : List Char} (h : operand.toList = before ++ s)
    (hbefore : before = [] ∨ before = ['.'])
    (herror : segments operand (Text.bytes before) s = .error e) : PointsInto operand e := by
  simp only [segments] at herror
  split at herror
  · rename_i error hfind
    cases herror
    obtain ⟨p, hp, hsegment⟩ := List.exists_of_findSome?_eq_some hfind
    rw [segmentError?] at hsegment
    split at hsegment
    · rename_i hempty
      cases hsegment
      exact pointsInto_emptySegment h hbefore hp (List.isEmpty_iff.1 hempty)
    · obtain ⟨span, hstray, rfl⟩ := Option.map_eq_some_iff.1 hsegment
      have hs : Text.StandsAt operand.toList (Text.bytes before) s :=
        ⟨before, [], by rw [h, List.append_nil], rfl⟩
      obtain ⟨c, hc, hstop⟩ := standsAt_strayCharacter (hs.split rfl hp) hstray
      exact ⟨rfl, [c], hc, hstop⟩
  · cases herror

/-- What is wrong with a path is told by a place in the path. -/
theorem pointsInto_parse (h : parse operand = .error e) : PointsInto operand e := by
  unfold parse at h
  split at h
  · cases h
  · rename_i s _ hchars
    have hdot : operand.toList = ['.'] ++ s := hchars
    exact pointsInto_segments hdot (.inr rfl) (error_of_map h)
  · have hwhole : operand.toList = [] ++ operand.toList := rfl
    exact pointsInto_segments hwhole (.inl rfl) (error_of_map h)

end Path

/-! ### Conditions -/

/-- What is wrong with a test is told by a place in the test. -/
lemma Test.pointsInto_parse (hs : Text.StandsAt operand.toList start s)
    (h : Test.parse operand start s = .error e) : PointsInto operand e := by
  cases s with
  | nil => cases h
  | cons c literal =>
    have hsplit : Text.StandsAt operand.toList start ([c] ++ literal) := hs
    rw [Test.parse] at h
    split at h
    case isFalse =>
      cases h
      exact .of_char hsplit.left
    case isTrue hc =>
      have hsize : c.utf8Size = 1 := by
        rcases hc with rfl | rfl | rfl <;> rfl
      have hliteral : Text.StandsAt operand.toList (start + 1) literal := by
        have hright := hsplit.right
        rwa [Text.bytes_cons, Text.bytes_nil, hsize] at hright
      split at h
      case isTrue =>
        cases h
        exact hsize ▸ .of_char hsplit.left
      case isFalse =>
        split at h
        case isTrue => cases h
        case isFalse =>
          split at h
          · cases h
            exact .of_run hliteral
          · split at h <;> cases h

namespace Statement

/-- A fault of a statement points into the operand. -/
lemma pointsInto_parseBody {negated : Bool} (hs : Text.StandsAt operand.toList start s)
    (h : parseBody operand negated start s = .error e) : PointsInto operand e := by
  rw [parseBody] at h
  split at h
  case isTrue =>
    cases h
    exact .characterAt hs
  case isFalse =>
    have hsplit : Text.StandsAt operand.toList start
        (s.takeWhile isPathChar ++ s.dropWhile isPathChar) := by
      rwa [List.takeWhile_append_dropWhile]
    rcases error_of_bind h with htest | ⟨test, h⟩
    · exact Test.pointsInto_parse hsplit.right htest
    · cases h

/-- What is wrong with a statement is told by a place in the statement. -/
lemma pointsInto_parse (hs : Text.StandsAt operand.toList start s)
    (h : Statement.parse operand ⟨start, s⟩ = .error e) : PointsInto operand e := by
  by_cases hhead : s.head? = some '!'
  · obtain ⟨rest, rfl⟩ : ∃ rest, s = ['!'] ++ rest := by
      cases s <;> simp_all
    rw [List.singleton_append, parse_negated] at h
    exact pointsInto_parseBody hs.right h
  · rw [parse_plain operand start hhead] at h
    exact pointsInto_parseBody hs h

end Statement

/-- Where a list is not read, one of its elements is not. -/
lemma error_of_mapM {α β ε : Type} {f : α → Except ε β} {xs : List α} {error : ε}
    (h : xs.mapM f = .error error) : ∃ x ∈ xs, f x = .error error := by
  induction xs with
  | nil => cases h
  | cons x xs ih =>
    rw [List.mapM_cons] at h
    rcases error_of_bind h with hx | ⟨y, h⟩
    · exact ⟨x, List.mem_cons_self, hx⟩
    · rcases error_of_bind h with hxs | ⟨ys, h⟩
      · obtain ⟨z, hz, hfound⟩ := ih hxs
        exact ⟨z, List.mem_cons_of_mem _ hz, hfound⟩
      · cases h

/-- What is wrong with a condition that stands in an operand is told by a place in the operand. -/
theorem Condition.pointsInto_parseAt (hs : Text.StandsAt operand.toList start s)
    (h : parseAt operand start s = .error e) : PointsInto operand e := by
  obtain ⟨p, hp, hstatement⟩ := error_of_mapM h
  have hpiece : p ∈ Text.placeFrom start (Text.split ';' s) := by
    rw [statementPieces] at hp
    split at hp
    · exact List.dropLast_subset _ hp
    · exact hp
  exact Statement.pointsInto_parse (hs.split rfl hpiece) hstatement

/-! ### Clauses -/

namespace Clause

/-- What is wrong with a clause is told by a place in the clause. -/
lemma pointsInto_ofPiece (hs : Text.StandsAt operand.toList start s)
    (h : ofPiece operand ⟨start, s⟩ = .error e) : PointsInto operand e := by
  rcases exists_name s with hcolon | ⟨name, value, rfl, hcolon⟩
  · rw [ofPiece_bare hcolon] at h
    split at h <;> cases h
    exact .characterAt hs
  · rw [ofPiece_valued hcolon] at h
    split at h
    case isTrue =>
      cases h
      have hsign : Text.StandsAt operand.toList (start + Text.bytes name) [':'] := hs.middle
      exact .of_char hsign
    case isFalse =>
      split at h <;> cases h
      exact .characterAt hs

/-- A fault of a clause points into the operand. -/
lemma pointsInto_ofPieces {pieces : List Text.Piece}
    (hs : ∀ p ∈ pieces, Text.StandsAt operand.toList p.start p.chars)
    (h : ofPieces operand pieces = .error e) : PointsInto operand e := by
  induction pieces with
  | nil => cases h
  | cons p pieces ih =>
    have hp := hs p List.mem_cons_self
    have hlater := fun q hq => hs q (List.mem_cons_of_mem p hq)
    rw [ofPieces] at h
    split at h
    case isTrue =>
      split at h <;> cases h
      exact .characterAt hp
    case isFalse =>
      rcases error_of_bind h with hclause | ⟨clause, h⟩
      · exact pointsInto_ofPiece hp hclause
      · rcases error_of_bind h with hclauses | ⟨clauses, h⟩
        · exact ih hlater hclauses
        · cases h

/-- What is wrong with clauses is told by a place in the operand. -/
theorem pointsInto_parse (h : parse operand = .error (.malformed e)) : PointsInto operand e := by
  have hpieces : ofPieces operand (Text.piecesAt ';' operand.toList) = .error e := by
    unfold parse at h
    split at h <;> cases h
    assumption
  exact pointsInto_ofPieces (fun p hp => (Text.StandsAt.self operand.toList).split rfl hp) hpieces

end Clause

/-! ### Formats of labels -/

/-- The code of a style is one byte. -/
lemma NumberStyle.utf8Size_code (style : NumberStyle) : style.code.utf8Size = 1 := by
  cases style <;> rfl

/-- What is wrong with a format is told by a place in the format. -/
lemma Numbering.pointsInto_parseFrom (hs : Text.StandsAt operand.toList start s)
    (h : parseFrom operand start s = .error e) : PointsInto operand e := by
  fun_induction parseFrom operand start s with
  | case1 => cases h
  | case2 start =>
    cases h
    exact .of_char hs
  | case3 start code s _ =>
    cases h
    have hplaceholder : Text.StandsAt operand.toList start ['%', code] := by
      have hsplit : Text.StandsAt operand.toList start (['%', code] ++ s) := hs
      exact hsplit.left
    rw [Nat.add_assoc]
    exact .of_run hplaceholder
  | case4 start code s style hcode ih =>
    obtain rfl := NumberStyle.ofCode?_eq_some.1 hcode
    have hsplit : Text.StandsAt operand.toList start (['%', style.code] ++ s) := hs
    have hrest : Text.StandsAt operand.toList (start + 2) s := by
      have hright := hsplit.right
      rwa [Text.bytes_cons, Text.bytes_cons, Text.bytes_nil, style.utf8Size_code] at hright
    rcases error_of_bind h with hlater | ⟨parts, h⟩
    · exact ih hrest hlater
    · cases h
  | case5 start c s _ _ ih =>
    have hsplit : Text.StandsAt operand.toList start ([c] ++ s) := hs
    rcases error_of_bind h with hlater | ⟨parts, h⟩
    · exact ih hsplit.right hlater
    · cases h

/-! ### Errors that are raised -/

/-- The errors that are raised for an operand by its readers: paths, conditions, clauses and formats
are read, the conditions before the colons of classes are read where they stand, and each clause for
attributes must have a path. -/
inductive OperandError.RaisedFor (operand : String) : OperandError → Prop
  | path {error : OperandError} (h : Path.parse operand = .error error) : RaisedFor operand error
  | condition {error : OperandError} (h : Condition.parse operand = .error error) :
      RaisedFor operand error
  | clauses {error : OperandError} (h : Clause.parse operand = .error (.malformed error)) :
      RaisedFor operand error
  | numbering {error : OperandError} (h : Numbering.parse operand = .error error) :
      RaisedFor operand error
  | classes {error : OperandError} {clauses : List Clause} {clause : Clause}
      (hread : Clause.parse operand = .ok clauses) (hclause : clause ∈ clauses)
      (h : Condition.parseAt operand clause.start clause.name.toList = .error error) :
      RaisedFor operand error
  | attributes {error : OperandError} {clauses : List Clause} {clause : Clause} {c : Setting}
      {n : NodeId} {scope : Value} {s s' : Walk.State} {f : Fault}
      (hread : Clause.parse operand = .ok clauses) (hclause : clause ∈ clauses)
      (hvalue : clause.value? = none)
      (h : AttributeOperator.setClause c n scope operand clause s = (.error (.fault f), s'))
      (hcause : f.cause = .malformed error) : RaisedFor operand error

/-- Every error that is raised for an operand tells the place of a run of its characters. -/
theorem OperandError.RaisedFor.pointsInto (h : RaisedFor operand e) : PointsInto operand e := by
  have hwhole := Text.StandsAt.self operand.toList
  cases h with
  | path h => exact Path.pointsInto_parse h
  | condition h => exact Condition.pointsInto_parseAt hwhole h
  | clauses h => exact Clause.pointsInto_parse h
  | numbering h => exact Numbering.pointsInto_parseFrom hwhole h
  | classes hread hclause h =>
    exact Condition.pointsInto_parseAt (Clause.standsAt_name hread hclause) h
  | attributes hread hclause hvalue h hcause =>
    rw [AttributeOperator.setClause, hvalue] at h
    cases h
    cases hcause
    exact .of_run (Clause.standsAt_name hread hclause)

/-- Every error that is raised for an operand keeps the operand and can be shown: its span lies
within the operand, begins and ends between characters, and cuts it into what is indented, what is
underlined and the rest. -/
theorem operand_errors (operand : String) (e : OperandError) (h : e.RaisedFor operand) :
    e.operand = operand ∧ e.Showable :=
  ⟨h.pointsInto.operand_eq, h.pointsInto.showable⟩

/-- The sign behind a letter of two bytes is wrong, in the condition of the second clause. -/
theorem operand_errors_class :
    Condition.parseAt "größe:x;ä·ö:y" 10 ['ä', '·', 'ö'] =
        .error ⟨.expectedComparison, "größe:x;ä·ö:y", ⟨12, 14⟩⟩ ∧
      (⟨.expectedComparison, "größe:x;ä·ö:y", ⟨12, 14⟩⟩ : OperandError).Showable := by
  have hread : Clause.parse "größe:x;ä·ö:y" =
      .ok [⟨"größe", some "x", 0⟩, ⟨"ä·ö", some "y", 10⟩] := rfl
  have hcondition : Condition.parseAt "größe:x;ä·ö:y" 10 ['ä', '·', 'ö'] =
      .error ⟨.expectedComparison, "größe:x;ä·ö:y", ⟨12, 14⟩⟩ := rfl
  exact ⟨hcondition, (operand_errors _ _ (.classes hread (List.mem_cons_of_mem _
    List.mem_cons_self) hcondition)).2⟩

end TreeTemplate
