import TreeTemplate.Text.CodePoints

/-!
# White space

The characters with the property `White_Space`, and what depends on them: whether a text is blank,
the text without the blanks at its ends, and its words.

Main statements:

* `isBlank_of_isWhitespace` — every white space character of the core library is a blank here;
* `words_ne_nil` — no word is empty.
-/

namespace TreeTemplate.Text

/-- The characters with the property `White_Space`. -/
def blanks : CodePoints where
  ranges :=
    [(0x09, 0x0D), (0x20, 0x20), (0x85, 0x85), (0xA0, 0xA0), (0x1680, 0x1680), (0x2000, 0x200A),
     (0x2028, 0x2029), (0x202F, 0x202F), (0x205F, 0x205F), (0x3000, 0x3000)]

/-- Whether a character is white space. -/
def isBlank (c : Char) : Bool :=
  blanks.contains c

/-- The table holds what the core library calls white space. -/
theorem isBlank_of_isWhitespace {c : Char} (h : c.isWhitespace = true) : isBlank c = true := by
  simp only [Char.isWhitespace, Bool.or_eq_true, decide_eq_true_eq] at h
  rcases h with ((h | h) | h) | h <;> subst h <;> decide

/-- Whether a text has nothing but white space. -/
def allBlank (s : List Char) : Bool :=
  s.all isBlank

/-- A text without the blanks at its beginning. -/
def trimStart (s : List Char) : List Char :=
  s.dropWhile isBlank

/-- A text without the blanks at its end. -/
def trimEnd (s : List Char) : List Char :=
  (s.reverse.dropWhile isBlank).reverse

/-- A text without the blanks at its ends. -/
def trim (s : List Char) : List Char :=
  trimEnd (trimStart s)

/-- The word that a text begins with and the words after it; the first is empty when the text
begins with a blank or has no character. -/
def wordRuns : List Char → List Char × List (List Char)
  | [] => ([], [])
  | c :: s =>
    let (first, later) := wordRuns s
    if isBlank c then ([], if first.isEmpty then later else first :: later)
    else (c :: first, later)

/-- The longest runs of characters that are not blank, from left to right. -/
def words (s : List Char) : List (List Char) :=
  let (first, later) := wordRuns s
  if first.isEmpty then later else first :: later

/-- A word behind a blank is not empty. -/
theorem wordRuns_later_ne_nil (s : List Char) : ∀ w ∈ (wordRuns s).2, w ≠ [] := by
  induction s with
  | nil => simp [wordRuns]
  | cons c s ih =>
    intro w hw
    simp only [wordRuns] at hw
    split at hw
    · split at hw
      · exact ih w hw
      · rename_i hf
        rcases List.mem_cons.1 hw with rfl | hw
        · simpa using hf
        · exact ih w hw
    · exact ih w hw

/-- No word of a text is empty. -/
theorem words_ne_nil {s w : List Char} (h : w ∈ words s) : w ≠ [] := by
  simp only [words] at h
  split at h
  · exact wordRuns_later_ne_nil s w h
  · rename_i hf
    rcases List.mem_cons.1 h with rfl | h
    · simpa using hf
    · exact wordRuns_later_ne_nil s w h

end TreeTemplate.Text
