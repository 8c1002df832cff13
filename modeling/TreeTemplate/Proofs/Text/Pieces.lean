import Mathlib.Tactic.Lemma
import TreeTemplate.Text.Pieces

/-!
# Texts that are joined and cut

Cutting a text at a separator undoes joining pieces by it, as long as no piece holds the separator.

Main statements:

* `Text.split_append_cons` — a text with a separator in it is cut on both sides of it;
* `Text.split_intercalate` — pieces that are joined are cut again.
-/

namespace TreeTemplate

namespace Text

/-- A separator cuts a text in two, and the halves are cut for themselves. -/
lemma split_append_cons (sep : Char) (s t : List Char) :
    split sep (s ++ sep :: t) = split sep s ++ split sep t := by
  induction s with
  | nil => simp [split]
  | cons c s ih =>
    obtain ⟨piece, pieces, hs⟩ := List.exists_cons_of_ne_nil (split_ne_nil sep s)
    by_cases hc : c = sep
    · simp [split, hc, ih]
    · simp [split, hc, ih, hs]

/-- Whatever stands in a text is the separator or stands in a piece. -/
lemma mem_split {sep c : Char} {s : List Char} (h : c ∈ s) :
    c = sep ∨ ∃ piece ∈ split sep s, c ∈ piece := by
  induction s with
  | nil => cases h
  | cons d s ih =>
    obtain ⟨piece, pieces, hs⟩ := List.exists_cons_of_ne_nil (split_ne_nil sep s)
    rw [hs] at ih
    by_cases hd : d = sep
    · rcases List.mem_cons.1 h with rfl | h
      · exact .inl hd
      · simpa [split, hd, hs] using ih h
    · rcases List.mem_cons.1 h with rfl | h
      · simp [split, hd, hs]
      · rcases ih h with rfl | ⟨other, hother, hc⟩
        · exact .inl rfl
        · rcases List.mem_cons.1 hother with rfl | hother
          · simp [split, hd, hs, hc]
          · simpa [split, hd, hs] using .inr (.inr ⟨other, hother, hc⟩)

/-- A text without a separator is one part. -/
lemma split_of_notMem {sep : Char} {s : List Char} (h : sep ∉ s) : split sep s = [s] := by
  induction s with
  | nil => rfl
  | cons c s ih =>
    have hc : c ≠ sep := fun e => h (e ▸ List.mem_cons_self)
    simp [split, hc, ih fun hs => h (List.mem_cons_of_mem c hs)]

/-- Pieces without the separator, joined by it, are the pieces of the text that they make. -/
lemma split_intercalate {sep : Char} {pieces : List (List Char)} (hne : pieces ≠ [])
    (h : ∀ piece ∈ pieces, sep ∉ piece) : split sep ([sep].intercalate pieces) = pieces := by
  induction pieces with
  | nil => exact absurd rfl hne
  | cons piece pieces ih =>
    have hpiece := split_of_notMem (h piece List.mem_cons_self)
    cases pieces with
    | nil => simpa using hpiece
    | cons next later =>
      rw [List.intercalate_cons_cons, List.append_assoc, List.singleton_append, split_append_cons,
        hpiece, ih (by simp) fun p hp => h p (List.mem_cons_of_mem piece hp), List.singleton_append]

/-- Parts are joined by joining the first ones and the others. -/
lemma intercalate_append {xs ys : List (List Char)} (hxs : xs ≠ []) (hys : ys ≠ [])
    (sep : List Char) :
    sep.intercalate (xs ++ ys) = sep.intercalate xs ++ (sep ++ sep.intercalate ys) := by
  induction xs with
  | nil => exact absurd rfl hxs
  | cons x xs ih =>
    cases xs with
    | nil =>
      obtain ⟨y, ys, rfl⟩ := List.exists_cons_of_ne_nil hys
      simp [List.intercalate_cons_cons]
    | cons next later =>
      have hlater := ih (by simp)
      rw [List.cons_append] at hlater
      simp only [List.cons_append, List.intercalate_cons_cons, hlater, List.append_assoc]

/-- Parts that are placed are the parts. -/
@[simp]
lemma map_chars_placeFrom (start : Nat) (pieces : List (List Char)) :
    (placeFrom start pieces).map (·.chars) = pieces := by
  induction pieces generalizing start with
  | nil => rfl
  | cons piece pieces ih => simp [placeFrom, ih]

/-- As many parts are placed as there are. -/
@[simp]
lemma length_placeFrom (start : Nat) (pieces : List (List Char)) :
    (placeFrom start pieces).length = pieces.length := by
  induction pieces generalizing start with
  | nil => rfl
  | cons piece pieces ih => simp [placeFrom, ih]

/-- The last part that is placed is the last one. -/
@[simp]
lemma getLast?_placeFrom (start : Nat) (pieces : List (List Char)) :
    (placeFrom start pieces).getLast?.map (·.chars) = pieces.getLast? := by
  rw [← List.getLast?_map, map_chars_placeFrom]

end Text

end TreeTemplate
