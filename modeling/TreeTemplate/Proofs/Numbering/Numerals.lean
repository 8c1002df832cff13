import Mathlib.Data.List.Infix
import Mathlib.Tactic.Lemma
import Mathlib.Tactic.Ring
import TreeTemplate.Numbering

/-!
# Numerals

The letters and the Roman numerals of labels, read back. A Roman numeral is read by the subtractive
rule: a symbol before a larger one is taken off, and all others are added. Writing is greedy, so
what it needs is a property of the table of numerals alone: each numeral ends with a symbol above
the one that any later numeral begins with. Then nothing is subtracted across two numerals, and no
run of one symbol goes across them.

Main statements:

* `NumberStyle.subtractive_roman` — a Roman numeral reads back to its number;
* `NumberStyle.not_infix_roman` — a symbol other than M stands at most three times in a row;
* `NumberStyle.eq_of_letters` — letters read back to their number;
* `labels_unambiguous` — all of this, and that different positions have different labels.
-/

namespace TreeTemplate

namespace NumberStyle

/-! ### The subtractive rule -/

/-- What a Roman symbol is worth; other characters are worth nothing. -/
def worth : Char → Nat
  | 'I' => 1
  | 'V' => 5
  | 'X' => 10
  | 'L' => 50
  | 'C' => 100
  | 'D' => 500
  | 'M' => 1000
  | _ => 0

/-- The number that symbols stand for: a symbol before a larger one is taken off, and all others are
added. -/
def subtractive : List Char → Int
  | [] => 0
  | [c] => worth c
  | c :: d :: s =>
    if worth c < worth d then subtractive (d :: s) - worth c else subtractive (d :: s) + worth c

/-- The first text does not end below where the second one begins. -/
def Descends (s t : List Char) : Prop :=
  ∀ c ∈ s.getLast?, ∀ d ∈ t.head?, worth d ≤ worth c

variable {s t : List Char} {c : Char} {n : Nat} {entry : Nat × List Char}
  {table : List (Nat × List Char)}

/-- Nothing is subtracted across two texts of which the first does not end below the second. -/
lemma subtractive_append (h : Descends s t) :
    subtractive (s ++ t) = subtractive s + subtractive t := by
  induction s with
  | nil => simp [subtractive]
  | cons c s ih =>
    cases s with
    | nil =>
      cases t with
      | nil => simp [subtractive]
      | cons d t =>
        have hle : worth d ≤ worth c := h c rfl d rfl
        simp [subtractive, Nat.not_lt.2 hle, Int.add_comm]
    | cons d s =>
      have hlater : subtractive (d :: (s ++ t)) = subtractive (d :: s) + subtractive t :=
        ih fun e he => h e (by rwa [List.getLast?_cons_cons])
      simp only [List.cons_append, subtractive, hlater]
      split <;> omega

/-- A text that is repeated begins as the text does. -/
lemma head?_flatten_replicate (k : Nat) (hc : c ∈ (List.replicate k s).flatten.head?) :
    c ∈ s.head? := by
  induction k with
  | zero => simp at hc
  | succ k ih =>
    rw [List.replicate_succ, List.flatten_cons, List.head?_append] at hc
    cases s with
    | nil => simp at hc
    | cons d s => simpa using hc

/-- A text that is repeated ends as the text does. -/
lemma getLast?_flatten_replicate (k : Nat) (hc : c ∈ (List.replicate k s).flatten.getLast?) :
    c ∈ s.getLast? := by
  induction k with
  | zero => simp at hc
  | succ k ih =>
    rw [List.replicate_succ, List.flatten_cons, List.getLast?_append] at hc
    cases hlast : (List.replicate k s).flatten.getLast? with
    | none => simpa [hlast] using hc
    | some d => exact ih (by simpa [hlast] using hc)

/-- A text that does not end below its beginning counts as often as it is repeated. -/
lemma subtractive_repeat (h : Descends s s) (k : Nat) :
    subtractive (List.replicate k s).flatten = k * subtractive s := by
  induction k with
  | zero => simp [subtractive]
  | succ k ih =>
    have happend : Descends s (List.replicate k s).flatten := fun c hc d hd =>
      h c hc d (head?_flatten_replicate k hd)
    rw [List.replicate_succ, List.flatten_cons, subtractive_append happend, ih]
    push_cast
    ring

/-! ### Tables of numerals -/

/-- Each numeral of a table reads as its value, alone and repeated. -/
def Legible (table : List (Nat × List Char)) : Prop :=
  ∀ entry ∈ table, subtractive entry.2 = entry.1 ∧ Descends entry.2 entry.2

/-- Each numeral of a table ends with a symbol above the one that any later numeral begins with. -/
def EndsAboveLater (table : List (Nat × List Char)) : Prop :=
  table.Pairwise fun entry later =>
    ∀ c ∈ entry.2.getLast?, ∀ d ∈ later.2.head?, worth d < worth c

/-- The part of a number that a table leaves over. -/
def leftOver (n : Nat) (table : List (Nat × List Char)) : Nat :=
  table.foldl (fun n entry => n % entry.1) n

/-- A number in the numerals of a table begins as one of the numerals does. -/
lemma head?_romanFrom (hc : c ∈ (romanFrom n table).head?) :
    ∃ entry ∈ table, c ∈ entry.2.head? := by
  induction table generalizing n with
  | nil => simp [romanFrom] at hc
  | cons entry smaller ih =>
    rw [romanFrom, List.head?_append] at hc
    cases hhead : (List.replicate (n / entry.1) entry.2).flatten.head? with
    | some d =>
      obtain rfl : d = c := by simpa [hhead] using hc
      exact ⟨entry, List.mem_cons_self, head?_flatten_replicate _ hhead⟩
    | none =>
      obtain ⟨later, hlater, hc⟩ := ih (by simpa [hhead] using hc)
      exact ⟨later, List.mem_cons_of_mem _ hlater, hc⟩

/-- In such a table, whatever follows the numerals of an entry begins below where they end. -/
lemma EndsAboveLater.lt_getLast? (h : EndsAboveLater (entry :: table)) {k m : Nat} {d : Char}
    (hc : c ∈ (List.replicate k entry.2).flatten.getLast?) (hd : d ∈ (romanFrom m table).head?) :
    worth d < worth c := by
  obtain ⟨later, hlater, hd⟩ := head?_romanFrom hd
  exact (List.pairwise_cons.1 h).1 later hlater c (getLast?_flatten_replicate k hc) d hd

/-- What is written in such a table reads back, but for what the table leaves over. -/
lemma subtractive_romanFrom (hlegible : Legible table) (habove : EndsAboveLater table) (n : Nat) :
    subtractive (romanFrom n table) + leftOver n table = n := by
  induction table generalizing n with
  | nil => simp [romanFrom, subtractive, leftOver]
  | cons entry smaller ih =>
    obtain ⟨⟨hvalue, hself⟩, hlater⟩ := List.forall_mem_cons.1 hlegible
    have hrest : subtractive (romanFrom (n % entry.1) smaller) +
        leftOver (n % entry.1) smaller = (n % entry.1 : Nat) :=
      ih hlater (List.pairwise_cons.1 habove).2 _
    have happend : Descends (List.replicate (n / entry.1) entry.2).flatten
        (romanFrom (n % entry.1) smaller) := fun c hc d hd =>
      Nat.le_of_lt (habove.lt_getLast? hc hd)
    have hdivision : ((n / entry.1 : Nat) : Int) * entry.1 + (n % entry.1 : Nat) = n := by
      exact_mod_cast Nat.div_add_mod' n entry.1
    rw [romanFrom, subtractive_append happend, subtractive_repeat hself, hvalue]
    change _ + (leftOver (n % entry.1) smaller : Int) = n
    omega

/-! ### Runs of one symbol -/

/-- A run of one symbol does not go across two texts when the first does not end as the second
begins. -/
lemma infix_of_infix_append {k : Nat} (h : ∀ d ∈ s.getLast?, d ∉ t.head?)
    (hrun : List.replicate k c <:+: s ++ t) :
    List.replicate k c <:+: s ∨ List.replicate k c <:+: t := by
  rcases List.infix_append_iff_ne_nil.1 hrun with hs | ht | ⟨l₁, l₂, hne₁, hne₂, hl, hs, ht⟩
  · exact .inl hs
  · exact .inr ht
  · obtain ⟨-, hl₁, hl₂⟩ := List.replicate_eq_append_iff.1 hl
    have hlast : c ∈ s.getLast? := by
      obtain ⟨before, rfl⟩ := hs
      rw [List.getLast?_append_of_ne_nil _ hne₁, hl₁]
      simp [List.getLast?_replicate, hne₁]
    have hhead : c ∈ t.head? := by
      obtain ⟨after, rfl⟩ := ht
      rw [List.head?_append_of_ne_nil _ hne₂, hl₂]
      simp [List.head?_replicate, hne₂]
    exact absurd hhead (h c hlast)

/-- Below a bound, no entry of a table needs more than three symbols. -/
def Spaced (bound : Nat) : List (Nat × List Char) → Prop
  | [] => True
  | (value, numeral) :: smaller =>
    0 < value ∧ (bound - 1) / value * numeral.length ≤ 3 ∧ Spaced value smaller

/-- Below the bound of a spaced table no symbol stands four times in a row. -/
lemma Spaced.not_infix {bound : Nat} (hspaced : Spaced bound table) (habove : EndsAboveLater table)
    (hn : n < bound) : ¬ List.replicate 4 c <:+: romanFrom n table := by
  induction table generalizing n bound with
  | nil => simp [romanFrom]
  | cons entry smaller ih =>
    obtain ⟨hpos, hfew, hsmaller⟩ := hspaced
    intro hrun
    have hboundary : ∀ d ∈ (List.replicate (n / entry.1) entry.2).flatten.getLast?,
        d ∉ (romanFrom (n % entry.1) smaller).head? := fun d hd hhead =>
      absurd (habove.lt_getLast? hd hhead) (Nat.lt_irrefl _)
    rcases infix_of_infix_append hboundary hrun with hfirst | hrest
    · have htimes : n / entry.1 ≤ (bound - 1) / entry.1 := Nat.div_le_div_right (by omega)
      have hlength : n / entry.1 * entry.2.length ≤ 3 :=
        Nat.le_trans (Nat.mul_le_mul_right _ htimes) hfew
      have hlong := hfirst.length_le
      simp only [List.length_replicate, List.length_flatten, List.map_replicate,
        List.sum_replicate_nat] at hlong
      omega
    · exact ih hsmaller (List.pairwise_cons.1 habove).2 (Nat.mod_lt _ hpos) hrest

/-! ### Roman numerals -/

/-- Roman numerals read as their values. -/
lemma legible_romanValues : Legible romanValues := by
  simp [Legible, romanValues, subtractive, Descends, worth]

/-- Roman numerals end with greater symbols than later ones begin with. -/
lemma endsAboveLater_romanValues : EndsAboveLater romanValues := by
  simp [EndsAboveLater, romanValues, worth]

/-- Roman numerals leave nothing over. -/
lemma leftOver_romanValues (n : Nat) : leftOver n romanValues = 0 :=
  Nat.mod_one _

/-- The numerals after the thousands are spaced below a thousand. -/
lemma spaced_romanValues : Spaced 1000 romanValues.tail := by
  simp [romanValues, Spaced]

/-- A Roman numeral reads back to its number. -/
theorem subtractive_roman (n : Nat) : subtractive (roman n) = n := by
  have h := subtractive_romanFrom legible_romanValues endsAboveLater_romanValues n
  rwa [leftOver_romanValues, Int.natCast_zero, Int.add_zero] at h

/-- A Roman numeral is made of the symbols of its table. -/
lemma mem_romanFrom (hc : c ∈ romanFrom n table) : ∃ entry ∈ table, c ∈ entry.2 := by
  induction table generalizing n with
  | nil => simp [romanFrom] at hc
  | cons entry smaller ih =>
    rcases List.mem_append.1 hc with hc | hc
    · obtain ⟨numeral, hnumeral, hc⟩ := List.mem_flatten.1 hc
      obtain rfl := List.eq_of_mem_replicate hnumeral
      exact ⟨entry, List.mem_cons_self, hc⟩
    · obtain ⟨later, hlater, hc⟩ := ih hc
      exact ⟨later, List.mem_cons_of_mem _ hlater, hc⟩

/-- A Roman numeral is made of the seven symbols. -/
lemma mem_roman (hc : c ∈ roman n) : c ∈ ['I', 'V', 'X', 'L', 'C', 'D', 'M'] := by
  have hsymbols : ∀ entry ∈ romanValues, ∀ d ∈ entry.2,
      d ∈ ['I', 'V', 'X', 'L', 'C', 'D', 'M'] := by
    simp [romanValues]
  obtain ⟨entry, hentry, hc⟩ := mem_romanFrom hc
  exact hsymbols entry hentry c hc

/-- A symbol other than M stands at most three times in a row. -/
theorem not_infix_roman (hc : c ≠ 'M') (n : Nat) : ¬ List.replicate 4 c <:+: roman n := by
  intro hrun
  have hboundary : ∀ d ∈ (List.replicate (n / 1000) ['M']).flatten.getLast?,
      d ∉ (romanFrom (n % 1000) romanValues.tail).head? := fun d hd hhead =>
    absurd (endsAboveLater_romanValues.lt_getLast? hd hhead) (Nat.lt_irrefl _)
  rcases infix_of_infix_append hboundary hrun with hthousands | hrest
  · have hmem : c ∈ (List.replicate (n / 1000) ['M']).flatten :=
      hthousands.subset (by simp)
    obtain ⟨numeral, hnumeral, hmem⟩ := List.mem_flatten.1 hmem
    obtain rfl := List.eq_of_mem_replicate hnumeral
    exact hc (List.mem_singleton.1 hmem)
  · exact spaced_romanValues.not_infix (List.pairwise_cons.1 endsAboveLater_romanValues).2
      (Nat.mod_lt _ (by decide)) hrest

/-! ### Letters -/

/-- A letter is found where it was looked for in the alphabet. -/
lemma toNat_letter (n : Nat) :
    (Char.ofNat ('A'.toNat + (n - 1) % 26)).toNat = 'A'.toNat + (n - 1) % 26 := by
  have hall : ∀ i : Fin 26, (Char.ofNat ('A'.toNat + i)).toNat = 'A'.toNat + i := by
    decide
  exact hall ⟨(n - 1) % 26, Nat.mod_lt _ (by decide)⟩

/-- A position is in letters one letter of the alphabet, from which and from the number of times
that it stands there the position is recovered. -/
theorem eq_of_letters (hn : 0 < n) : ∃ letter length,
    letters n = List.replicate length letter ∧ 0 < length ∧ 'A' ≤ letter ∧ letter ≤ 'Z' ∧
      letter.toNat = 'A'.toNat + (n - 1) % 26 ∧
      n = 26 * (length - 1) + (letter.toNat - 'A'.toNat + 1) := by
  have hlt : (n - 1) % 26 < 26 := Nat.mod_lt _ (by decide)
  have hletter := toNat_letter n
  refine ⟨Char.ofNat ('A'.toNat + (n - 1) % 26), (n - 1) / 26 + 1, ?_, Nat.succ_pos _, ?_, ?_,
    hletter, ?_⟩
  · rw [letters, if_neg (Nat.ne_of_gt hn)]
  · rw [Char.le_def, UInt32.le_iff_toNat_le]
    change 'A'.toNat ≤ (Char.ofNat ('A'.toNat + (n - 1) % 26)).toNat
    omega
  · rw [Char.le_def, UInt32.le_iff_toNat_le]
    change (Char.ofNat ('A'.toNat + (n - 1) % 26)).toNat ≤ 'Z'.toNat
    simp only [Char.reduceToNat] at hletter ⊢
    omega
  · rw [hletter]
    omega

/-! ### Labels -/

/-- A text in capital letters. -/
def Capital (s : List Char) : Prop :=
  ∀ c ∈ s, 'A' ≤ c ∧ c ≤ 'Z'

/-- A capital letter is its small letter in capitals. -/
lemma toUpper_toLower (h : 'A' ≤ c ∧ c ≤ 'Z') : c.toLower.toUpper = c := by
  have hall : ∀ i : Fin 26, (Char.ofNat ('A'.toNat + i)).toLower.toUpper =
      Char.ofNat ('A'.toNat + i) := by
    decide
  have hlow : 'A'.toNat ≤ c.toNat := h.1
  have hhigh : c.toNat ≤ 'Z'.toNat := h.2
  simp only [Char.reduceToNat] at hlow hhigh
  have hc : 'A'.toNat + (c.toNat - 65) = c.toNat := Nat.add_sub_cancel' hlow
  simpa only [hc, Char.ofNat_toNat] using hall ⟨c.toNat - 65, by omega⟩

/-- Small letters tell apart what capital letters do. -/
lemma eq_of_map_toLower (hs : Capital s) (ht : Capital t)
    (h : s.map Char.toLower = t.map Char.toLower) : s = t := by
  have hback : ∀ {u : List Char}, Capital u → (u.map Char.toLower).map Char.toUpper = u := by
    intro u hu
    have hsame : ∀ c ∈ u, (Char.toUpper ∘ Char.toLower) c = id c := fun c hc =>
      toUpper_toLower (hu c hc)
    rw [List.map_map, List.map_congr_left hsame, List.map_id]
  rw [← hback hs, h, hback ht]

/-- Roman numerals are in capitals. -/
lemma capital_roman (n : Nat) : Capital (roman n) := by
  have hall : ∀ d ∈ ['I', 'V', 'X', 'L', 'C', 'D', 'M'], 'A' ≤ d ∧ d ≤ 'Z' := by
    simp
  exact fun c hc => hall c (mem_roman hc)

/-- Letters of a number are in capitals. -/
lemma capital_letters (hn : 0 < n) : Capital (letters n) := by
  obtain ⟨letter, length, hletters, -, hlow, hhigh, -⟩ := eq_of_letters hn
  intro c hc
  obtain rfl : c = letter := List.eq_of_mem_replicate (hletters ▸ hc)
  exact ⟨hlow, hhigh⟩

/-- Different numbers have different Roman numerals. -/
lemma roman_injective {m : Nat} (h : roman n = roman m) : n = m := by
  have hread := congrArg subtractive h
  rw [subtractive_roman, subtractive_roman] at hread
  exact Int.natCast_inj.1 hread

/-- Different positive numbers have different letters. -/
lemma letters_injective {m : Nat} (hn : 0 < n) (hm : 0 < m) (h : letters n = letters m) :
    n = m := by
  obtain ⟨letter, length, hletters, hlength, -, -, -, hread⟩ := eq_of_letters hn
  obtain ⟨letter', length', hletters', -, -, -, -, hread'⟩ := eq_of_letters hm
  rw [hletters, hletters', List.replicate_inj] at h
  obtain ⟨rfl, hsame⟩ := h
  obtain rfl : letter = letter' := hsame.resolve_left (Nat.ne_of_gt hlength)
  exact hread.trans hread'.symm

/-- Different positions have different labels in each style. -/
lemma label_injective {m : Nat} (hn : 0 < n) (hm : 0 < m) (style : NumberStyle)
    (h : label n style = label m style) : n = m := by
  cases style with
  | arabic =>
    have hread := congrArg (Nat.ofDigitChars 10 · 0) h
    simpa [label] using hread
  | lowerLetter =>
    exact letters_injective hn hm (eq_of_map_toLower (capital_letters hn) (capital_letters hm) h)
  | upperLetter => exact letters_injective hn hm h
  | lowerRoman =>
    exact roman_injective (eq_of_map_toLower (capital_roman n) (capital_roman m) h)
  | upperRoman => exact roman_injective h

end NumberStyle

open NumberStyle in
/-- A Roman numeral reads back to its number by the subtractive rule, is made of the seven symbols,
and has no symbol but M more than three times in a row. Letters are one letter of the alphabet, from
which and from the number of times that it stands there the number is recovered. In each style the
labels of different positions are different. -/
theorem labels_unambiguous {n : Nat} (hn : 0 < n) :
    (subtractive (roman n) = n ∧
      (∀ c ∈ roman n, c ∈ ['I', 'V', 'X', 'L', 'C', 'D', 'M']) ∧
      ∀ c, c ≠ 'M' → ¬ List.replicate 4 c <:+: roman n) ∧
    (∃ letter length, letters n = List.replicate length letter ∧ 0 < length ∧
      'A' ≤ letter ∧ letter ≤ 'Z' ∧ letter.toNat = 'A'.toNat + (n - 1) % 26 ∧
      n = 26 * (length - 1) + (letter.toNat - 'A'.toNat + 1)) ∧
    ∀ style m, 0 < m → label m style = label n style → m = n :=
  ⟨⟨subtractive_roman n, fun _ => mem_roman, fun _ hc => not_infix_roman hc n⟩, eq_of_letters hn,
    fun style _ hm h => label_injective hm hn style h⟩

open NumberStyle in
/-- A numeral with each kind of subtraction in it, and the letters of the same number. -/
theorem labels_unambiguous_subtractions : 0 < 1494 ∧ roman 1494 = "MCDXCIV".toList ∧
    subtractive "MCDXCIV".toList = 1494 ∧ (∀ c, c ≠ 'M' →
      ¬ List.replicate 4 c <:+: "MCDXCIV".toList) ∧
    letters 1494 = List.replicate 58 'L' ∧
    ∀ style m, 0 < m → label m style = label 1494 style → m = 1494 := by
  have hroman : roman 1494 = "MCDXCIV".toList := by decide
  obtain ⟨⟨hread, -, hruns⟩, -, hlabels⟩ := labels_unambiguous (n := 1494) (by decide)
  rw [hroman] at hread hruns
  exact ⟨by decide, hroman, hread, hruns, by decide, hlabels⟩

end TreeTemplate
