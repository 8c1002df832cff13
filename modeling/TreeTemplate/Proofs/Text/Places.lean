import TreeTemplate.Clause
import TreeTemplate.Proofs.Text.Pieces

/-!
# Places in texts

Where a run of characters stands in a text, told by the number of bytes before it. Bytes that are
counted up from the place of one run lead to the places of the runs in it and behind it, and they
never end up inside of a character.

Main statements:

* `Text.StandsAt.piece` — the pieces of a text stand where they are placed;
* `Text.StandsAt.slice` — a run is found by its place and its length;
* `Text.StandsAt.isValid` — runs begin and end between characters.
-/

namespace TreeTemplate

namespace Text

/-- A run of characters stands in a text, and the characters before it make so many bytes. -/
def StandsAt (s : List Char) (start : Nat) (run : List Char) : Prop :=
  ∃ before after, s = before ++ (run ++ after) ∧ bytes before = start

variable {s t run : List Char} {start : Nat} {sep : Char}

/-- As many bytes as a text has are the text in front. -/
lemma takeBytes_bytes (s t : List Char) : takeBytes (bytes s) (s ++ t) = s := by
  induction s with
  | nil =>
    cases t with
    | nil => rfl
    | cons c t => simp [takeBytes, Nat.ne_of_gt c.utf8Size_pos]
  | cons c s ih => simp [takeBytes, ih]

/-- Behind as many bytes as a text has stands the rest. -/
lemma dropBytes_bytes (s t : List Char) : dropBytes (bytes s) (s ++ t) = t := by
  induction s with
  | nil => cases t <;> simp [dropBytes]
  | cons c s ih =>
    have hne : c.utf8Size + bytes s ≠ 0 := by
      have hpos := c.utf8Size_pos
      omega
    rw [List.cons_append, bytes_cons, dropBytes, if_neg hne, Nat.add_sub_cancel_left, ih]

namespace StandsAt

/-- A text stands at its beginning. -/
lemma self (s : List Char) : StandsAt s 0 s :=
  ⟨[], [], by simp, rfl⟩

/-- The first part of a run stands where the run does. -/
lemma left (h : StandsAt s start (run ++ t)) : StandsAt s start run := by
  obtain ⟨before, after, rfl, hstart⟩ := h
  exact ⟨before, t ++ after, by simp, hstart⟩

/-- The second part of a run stands behind the first. -/
lemma right (h : StandsAt s start (run ++ t)) : StandsAt s (start + bytes run) t := by
  obtain ⟨before, after, rfl, rfl⟩ := h
  exact ⟨before ++ run, after, by simp, by simp⟩

/-- What stands between two other runs. -/
lemma middle {first later : List Char} (h : StandsAt s start (first ++ (run ++ later))) :
    StandsAt s (start + bytes first) run :=
  h.right.left

/-- A run is found by its place and its length. -/
theorem slice (h : StandsAt s start run) : takeBytes (bytes run) (dropBytes start s) = run := by
  obtain ⟨before, after, rfl, rfl⟩ := h
  rw [dropBytes_bytes, takeBytes_bytes]

end StandsAt

/-- Pieces one of which is singled out are joined to what stands before it, the piece, and what
stands behind it. -/
lemma intercalate_middle (sep : List Char) (first later : List (List Char)) (piece : List Char) :
    sep.intercalate (first ++ piece :: later) =
      first.flatMap (· ++ sep) ++ (piece ++ later.flatMap (sep ++ ·)) := by
  induction first with
  | nil =>
    induction later generalizing piece with
    | nil => simp
    | cons next later ih => simpa [List.intercalate_cons_cons] using ih next
  | cons head first ih =>
    obtain ⟨next, pieces, hpieces⟩ : ∃ next pieces, first ++ piece :: later = next :: pieces :=
      List.exists_cons_of_ne_nil (by simp)
    rw [hpieces] at ih
    rw [List.cons_append, hpieces, List.intercalate_cons_cons, ih]
    simp

/-- A piece is placed behind the pieces before it and their separators. -/
lemma exists_of_mem_placeFrom (hsep : sep.utf8Size = 1) {pieces : List (List Char)} {p : Piece}
    (hp : p ∈ placeFrom start pieces) : ∃ first later, pieces = first ++ p.chars :: later ∧
      p.start = start + bytes (first.flatMap (· ++ [sep])) := by
  induction pieces generalizing start with
  | nil => cases hp
  | cons piece pieces ih =>
    rcases List.mem_cons.1 hp with rfl | hp
    · exact ⟨[], pieces, rfl, by simp⟩
    · obtain ⟨first, later, rfl, hstart⟩ := ih hp
      refine ⟨piece :: first, later, rfl, ?_⟩
      rw [hstart]
      simp [hsep]
      omega

/-- The pieces of a run stand where they are placed. -/
theorem StandsAt.piece (hsep : sep.utf8Size = 1) {pieces : List (List Char)}
    (h : StandsAt s start ([sep].intercalate pieces)) {p : Piece}
    (hp : p ∈ placeFrom start pieces) : StandsAt s p.start p.chars := by
  obtain ⟨first, later, rfl, hstart⟩ := exists_of_mem_placeFrom hsep hp
  rw [intercalate_middle] at h
  exact hstart ▸ h.middle

/-- The parts of a run between separators stand where they are placed. -/
lemma StandsAt.split (hsep : sep.utf8Size = 1) (h : StandsAt s start run) {p : Piece}
    (hp : p ∈ placeFrom start (split sep run)) : StandsAt s p.start p.chars := by
  rw [← intercalate_split sep run] at h
  exact h.piece hsep hp

/-! ### Bytes of strings -/

/-- The bytes of the characters are those of the text. -/
lemma bytes_toList (s : String) : bytes s.toList = s.utf8ByteSize := by
  have hchars : ∀ chars : List Char, bytes chars = (String.ofList chars).utf8ByteSize := by
    intro chars
    induction chars with
    | nil => rfl
    | cons c chars ih =>
      rw [String.ofList_cons, String.utf8ByteSize_append, ← ih]
      simp
  rw [hchars, String.ofList_toList]

/-- A run begins and ends between characters, and it does not reach beyond the text. -/
theorem StandsAt.isValid {text : String} (h : StandsAt text.toList start run) :
    start + bytes run ≤ text.utf8ByteSize ∧ (String.Pos.Raw.mk start).IsValid text ∧
      (String.Pos.Raw.mk (start + bytes run)).IsValid text := by
  obtain ⟨before, after, htext, rfl⟩ := h
  have hvalid : ∀ first later : List Char, text.toList = first ++ later →
      (String.Pos.Raw.mk (bytes first)).IsValid text := by
    intro first later hsplit
    refine String.Pos.Raw.isValid_iff_exists_append.2 ⟨String.ofList first, String.ofList later,
      String.toList_inj.1 (by simpa using hsplit), ?_⟩
    rw [← String.toList_ofList (l := first), bytes_toList]
    simp [String.rawEndPos]
  refine ⟨?_, hvalid before (run ++ after) htext, ?_⟩
  · rw [← bytes_toList, htext]
    simp only [bytes_append]
    omega
  · rw [← bytes_append]
    exact hvalid (before ++ run) after (by simp [htext])

end Text

end TreeTemplate
