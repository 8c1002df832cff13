import TreeTemplate.Proofs.Local.Causes
import TreeTemplate.Proofs.Text.Pieces

/-!
# Joined paths

Two paths with a dot between them are one path. In a scope that has properties it names what the
second path names in the value that the first one names.

Main statements:

* `Path.parse_joined` — the segments of the two paths one after another;
* `Path.read_joined` — what a joined path names.
-/

namespace TreeTemplate.Path

variable {operand first second : String} {start : Nat} {s t : List Char}
  {names : List String} {path : Path} {model scope value : Value}

/-- Whether the characters of a segment may stand there. -/
def isSegment (piece : List Char) : Bool :=
  !piece.isEmpty && piece.all isSegmentChar

/-- No character of a segment is stray if all of them may stand there. -/
lemma strayCharacter?_eq_none : strayCharacter? start s = none ↔ s.all isSegmentChar = true := by
  induction s generalizing start with
  | nil => simp [strayCharacter?]
  | cons c s ih =>
    simp only [strayCharacter?, List.all_cons, Bool.and_eq_true]
    split <;> simp_all

/-- A segment has no fault if it is one. -/
lemma segmentError?_eq_none {piece : Text.Piece} :
    segmentError? operand piece = none ↔ isSegment piece.chars = true := by
  unfold segmentError? isSegment
  cases piece.chars with
  | nil => simp
  | cons c s => simp [strayCharacter?_eq_none]

/-- A text is read as segments just when the pieces between its dots are segments. -/
lemma segments_eq_ok : segments operand start s = .ok names ↔
    (∀ piece ∈ Text.split '.' s, isSegment piece = true) ∧
      (Text.split '.' s).map String.ofList = names := by
  have hchars := Text.map_chars_placeFrom start (Text.split '.' s)
  unfold segments
  generalize Text.placeFrom start (Text.split '.' s) = pieces at hchars
  rw [← hchars]
  have hpieces : pieces.findSome? (segmentError? operand) = none ↔
      ∀ chars ∈ pieces.map (·.chars), isSegment chars = true := by
    simp only [List.findSome?_eq_none_iff, segmentError?_eq_none, List.forall_mem_map]
  cases herror : pieces.findSome? (segmentError? operand) with
  | some error => simp only [← hpieces, herror, reduceCtorEq, false_and]
  | none =>
    have hall := hpieces.1 herror
    simp only [herror, Except.ok.injEq, List.map_map, Function.comp_def]
    exact ⟨fun h => ⟨hall, h⟩, fun h => h.2⟩

/-- A path that is read has a segment. -/
lemma segments_ne_nil (h : segments operand start s = .ok names) : names ≠ [] := by
  obtain ⟨-, rfl⟩ := segments_eq_ok.1 h
  simpa using Text.split_ne_nil '.' s

/-- Segments in two texts with a dot between them. -/
lemma segments_joined {names' : List String} {operand' operand'' : String} {start' : Nat}
    (hs : segments operand start s = .ok names) (ht : segments operand' start' t = .ok names') :
    segments operand'' start (s ++ '.' :: t) = .ok (names ++ names') := by
  obtain ⟨hpieces, hnames⟩ := segments_eq_ok.1 hs
  obtain ⟨hpieces', hnames'⟩ := segments_eq_ok.1 ht
  rw [segments_eq_ok, Text.split_append_cons, List.map_append, List.forall_mem_append, hnames,
    hnames']
  exact ⟨⟨hpieces, hpieces'⟩, rfl⟩

/-- A path with further segments. -/
def extend (later : List String) : Path → Path
  | .scope => .relative later
  | .absolute names => .absolute (names ++ later)
  | .relative names => .relative (names ++ later)

/-- What a text that is read as a path looks like. -/
lemma parse_cases (h : parse operand = .ok path) :
    (operand = "." ∧ path = .scope) ∨
    (∃ s names, operand.toList = '.' :: s ∧ s ≠ [] ∧ segments operand 1 s = .ok names ∧
      path = .absolute names) ∨
    (∃ c s names, operand.toList = c :: s ∧ c ≠ '.' ∧ segments operand 0 (c :: s) = .ok names ∧
      path = .relative names) := by
  unfold parse at h
  split at h
  · rename_i hchars
    cases h
    exact .inl ⟨String.toList_inj.1 hchars, rfl⟩
  · rename_i s hs hchars
    cases hsegments : segments operand 1 s with
    | error error => rw [hsegments] at h; cases h
    | ok names =>
      rw [hsegments] at h
      cases h
      exact .inr (.inl ⟨s, names, hchars, fun e => hs (by rw [e]), hsegments, rfl⟩)
  · rename_i hscope habsolute
    cases hsegments : segments operand 0 operand.toList with
    | error error => rw [hsegments] at h; cases h
    | ok names =>
      rw [hsegments] at h
      cases h
      refine .inr (.inr ?_)
      cases hchars : operand.toList with
      | nil => simp [hchars, segments_eq_ok, Text.split, isSegment] at hsegments
      | cons c s =>
        refine ⟨c, s, names, rfl, ?_, hchars ▸ hsegments, rfl⟩
        rintro rfl
        exact habsolute s hchars

/-- A relative path has a segment. -/
lemma ne_nil_of_parse (h : parse operand = .ok (.relative names)) : names ≠ [] := by
  rcases parse_cases h with ⟨-, e⟩ | ⟨_, _, _, _, _, e⟩ | ⟨_, _, _, _, _, hnames, e⟩ <;> cases e
  exact segments_ne_nil hnames

/-- A path behind a point is absolute. -/
lemma parse_absolute (h : operand.toList = '.' :: s) (hs : s ≠ [])
    (hnames : segments operand 1 s = .ok names) : parse operand = .ok (.absolute names) := by
  obtain ⟨c, s, rfl⟩ := List.exists_cons_of_ne_nil hs
  simp only [parse, h, hnames]
  rfl

/-- A path that begins with no point is relative. -/
lemma parse_relative {c : Char} (h : operand.toList = c :: s) (hc : c ≠ '.')
    (hnames : segments operand 0 (c :: s) = .ok names) :
    parse operand = .ok (.relative names) := by
  unfold parse
  rw [h]
  split
  · rename_i e
    cases e
    exact absurd rfl hc
  · rename_i e
    cases e
    exact absurd rfl hc
  · rw [hnames]
    rfl

/-- Two paths with a dot between them are read as one. -/
theorem parse_joined (hfirst : parse first = .ok path) (hpath : first ≠ ".")
    (hsecond : parse second = .ok (.relative names)) :
    parse (first ++ "." ++ second) = .ok (path.extend names) := by
  have hchars : (first ++ "." ++ second).toList = first.toList ++ '.' :: second.toList := by
    simp
  -- of the three kinds of texts only the last one is read as a relative path
  obtain ⟨c, t, found, hlater, -, hnames, hfound⟩ :
      ∃ c t found, second.toList = c :: t ∧ c ≠ '.' ∧ segments second 0 (c :: t) = .ok found ∧
        Path.relative names = .relative found := by
    rcases parse_cases hsecond with ⟨-, e⟩ | ⟨_, _, _, _, _, e⟩ | h
    · cases e
    · cases e
    · exact h
  cases hfound
  rw [hlater] at hchars
  rcases parse_cases hfirst with
    ⟨hdot, -⟩ | ⟨s, names', hs, hne, hsegments, rfl⟩ | ⟨c', s, names', hs, hc, hsegments, rfl⟩
  · exact absurd hdot hpath
  · rw [hs] at hchars
    exact parse_absolute hchars (by simp) (segments_joined hsegments hnames)
  · rw [hs] at hchars
    exact parse_relative hchars hc (segments_joined hsegments hnames)

/-- The scope of a joined path has properties, or the path does not look at it. -/
lemma resolve_extend (hscope : scope.isComposite = true) (path : Path) (later : List String) :
    (path.extend later).resolve model scope =
      (do follow (← path.resolve model scope) later) := by
  cases path with
  | scope => simp only [extend, resolve, hscope, if_true]; rfl
  | absolute names => exact follow_append model names later
  | relative names => simp only [extend, resolve, hscope, if_true, follow_append]

/-- A joined path names what the second path names in the value that the first one names. -/
theorem read_joined (hscope : scope.isComposite = true) (hfirst : parse first = .ok path)
    (hpath : first ≠ ".") (hsecond : parse second = .ok (.relative names)) :
    read model scope (first ++ "." ++ second) =
      (do follow (← read model scope first) names) := by
  have hread : read model scope first = path.resolve model scope := by
    simp only [read, hfirst]
  rw [hread, ← resolve_extend hscope]
  simp only [read, parse_joined hfirst hpath hsecond]

/-- A relative path names a property of a scope that has properties. -/
lemma read_relative (hscope : scope.isComposite = true)
    (h : parse operand = .ok (.relative names)) :
    read model scope operand = follow scope names := by
  simp only [read, h, resolve, hscope, if_true]

/-- Nothing is looked up in a scalar. -/
lemma follow_scalar (hnull : value.isNull = false) (hscalar : value.isComposite = false)
    (hnames : names ≠ []) :
    ∃ segment, follow value names = .error (.unreadableProperty segment value.kind) := by
  obtain ⟨segment, names, rfl⟩ := List.exists_cons_of_ne_nil hnames
  refine ⟨segment, ?_⟩
  have hproperty : property value segment = .error (.unreadableProperty segment value.kind) := by
    cases value <;> first | rfl | cases hscalar
  simp only [follow, hnull, hproperty, Bool.false_eq_true, if_false]
  rfl

/-- In a scope that has properties a path fails only because the model lacks something. -/
lemma read_lacks (hscope : scope.isComposite = true) (hpath : parse operand = .ok path)
    {cause : Cause} (h : read model scope operand = .error cause) :
    cause.faultClass = .content := by
  simp only [read, hpath] at h
  cases path with
  | scope => cases h
  | absolute names => exact follow_class h
  | relative names =>
    simp only [resolve, hscope, if_true] at h
    exact follow_class h

end TreeTemplate.Path
