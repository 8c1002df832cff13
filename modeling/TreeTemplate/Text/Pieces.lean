/-!
# Pieces of a text and their places

A text is cut at a separator into pieces, and each piece is placed at the number of bytes that
stand before it. Positions count bytes of the UTF-8 form throughout.

Main statements:

* `intercalate_split` — the pieces, with the separator between them, give the text back;
* `not_mem_of_mem_split` — no piece holds the separator.
-/

namespace TreeTemplate.Text

/-- The number of bytes of a text in UTF-8. -/
def bytes : List Char → Nat
  | [] => 0
  | c :: s => c.utf8Size + bytes s

/-- An empty text has no bytes. -/
@[simp]
theorem bytes_nil : bytes [] = 0 := rfl

/-- The bytes of a text are those of its first character and those of the rest. -/
@[simp]
theorem bytes_cons (c : Char) (s : List Char) : bytes (c :: s) = c.utf8Size + bytes s := rfl

/-- The bytes of two texts are those of both. -/
@[simp]
theorem bytes_append (s t : List Char) : bytes (s ++ t) = bytes s + bytes t := by
  induction s with
  | nil => simp
  | cons c s ih => simp [ih, Nat.add_assoc]

/-- The pieces of a text between the occurrences of a separator; a text without the separator is
one piece. -/
def split (sep : Char) : List Char → List (List Char)
  | [] => [[]]
  | c :: s =>
    if c = sep then [] :: split sep s
    else match split sep s with
      | [] => [[c]]
      | piece :: pieces => (c :: piece) :: pieces

/-- There is always at least one piece. -/
theorem split_ne_nil (sep : Char) (s : List Char) : split sep s ≠ [] := by
  cases s with
  | nil => simp [split]
  | cons c s =>
    simp only [split]
    split
    · simp
    · split <;> simp

/-- Joined by the separator, the pieces of a text are the text. -/
theorem intercalate_split (sep : Char) (s : List Char) :
    [sep].intercalate (split sep s) = s := by
  induction s with
  | nil => simp [split, List.intercalate]
  | cons c s ih =>
    obtain ⟨piece, pieces, hs⟩ := List.exists_cons_of_ne_nil (split_ne_nil sep s)
    rw [hs] at ih
    by_cases hc : c = sep
    · cases pieces <;> simp_all [split, List.intercalate, List.intersperse]
    · cases pieces <;> simp_all [split, List.intercalate, List.intersperse]

/-- No piece holds the separator. -/
theorem not_mem_of_mem_split {sep : Char} {s piece : List Char} (h : piece ∈ split sep s) :
    sep ∉ piece := by
  induction s generalizing piece with
  | nil => simp_all [split]
  | cons c s ih =>
    simp only [split] at h
    split at h
    · rcases List.mem_cons.1 h with rfl | h
      · simp
      · exact ih h
    · rename_i hc
      obtain ⟨first, later, hs⟩ := List.exists_cons_of_ne_nil (split_ne_nil sep s)
      rw [hs] at h
      rcases List.mem_cons.1 h with rfl | h
      · have : sep ∉ first := ih (by simp [hs])
        simp only [List.mem_cons, not_or]
        exact ⟨fun e => hc e.symm, this⟩
      · exact ih (by simp [hs, h])

/-- A piece of a text and the number of bytes before it. -/
structure Piece where
  start : Nat
  chars : List Char
deriving Repr, DecidableEq

/-- The number of bytes before the end of a piece. -/
def Piece.stop (p : Piece) : Nat :=
  p.start + bytes p.chars

/-- Places pieces one after another, each behind a separator of one byte that follows the piece
before it. -/
def placeFrom (start : Nat) : List (List Char) → List Piece
  | [] => []
  | chars :: later => ⟨start, chars⟩ :: placeFrom (start + bytes chars + 1) later

/-- The pieces of a text at a separator of one byte, with their places. -/
def piecesAt (sep : Char) (s : List Char) : List Piece :=
  placeFrom 0 (split sep s)

/-- Everything before the first occurrence of a separator and everything after it, if there is
one. -/
def splitOnce (sep : Char) : List Char → Option (List Char × List Char)
  | [] => none
  | c :: s =>
    if c = sep then some ([], s)
    else (splitOnce sep s).map fun (before, after) => (c :: before, after)

/-- The rest of a text behind a beginning, if it begins so. -/
def afterPrefix? : List Char → List Char → Option (List Char)
  | [], s => some s
  | _ :: _, [] => none
  | b :: bs, c :: s => if b = c then afterPrefix? bs s else none

/-- The two parts of a text, cut where a sequence of characters first occurs. -/
def splitAtFirst (mark : List Char) : List Char → Option (List Char × List Char)
  | [] => if mark.isEmpty then some ([], []) else none
  | c :: s =>
    match afterPrefix? mark (c :: s) with
    | some rest => some ([], rest)
    | none => (splitAtFirst mark s).map fun (before, after) => (c :: before, after)

end TreeTemplate.Text
