import TreeTemplate.Decimal.Positional
import TreeTemplate.Proofs.Decimal.Floats

/-!
# Written integers

A decimal writing of an integer is a run of digits behind an optional sign. It is read as a float,
and the float stands for the rounded integer.

Main statements:

* `readFloat?_of_writes` — what a writing is read as;
* `writes_integerText` — the text of an integer is a writing of it.
-/

namespace TreeTemplate.Decimal

variable {digits s : List Char} {k : Int}

/-- A text is a decimal writing of an integer. -/
inductive Writes : Int → List Char → Prop
  | plain (digits : List Char) (hne : digits ≠ []) (h : ∀ c ∈ digits, c.isDigit = true) :
      Writes (decimalValue digits) digits
  | plus (digits : List Char) (hne : digits ≠ []) (h : ∀ c ∈ digits, c.isDigit = true) :
      Writes (decimalValue digits) ('+' :: digits)
  | minus (digits : List Char) (hne : digits ≠ []) (h : ∀ c ∈ digits, c.isDigit = true) :
      Writes (-(decimalValue digits)) ('-' :: digits)

/-- Digits and signs are all there is in a writing. -/
lemma Writes.notMem {c : Char} (h : Writes k s) (hdigit : c.isDigit = false) (hplus : c ≠ '+')
    (hminus : c ≠ '-') : c ∉ s := by
  have hnone : ∀ {digits : List Char}, (∀ c ∈ digits, c.isDigit = true) → c ∉ digits := by
    intro digits h hmem
    rw [h c hmem] at hdigit
    cases hdigit
  cases h with
  | plain _ _ h => exact hnone h
  | plus _ _ h => simp [hplus, hnone h]
  | minus _ _ h => simp [hminus, hnone h]

/-! ### Reading -/

/-- Digits are read as their value. -/
lemma readDecimal?_digits (hne : digits ≠ []) (h : ∀ c ∈ digits, c.isDigit = true) :
    readDecimal? digits = some (decimalValue digits, 0) := by
  have htake : digits.takeWhile Char.isDigit = digits := List.takeWhile_eq_self_iff.2 h
  have hdrop : digits.dropWhile Char.isDigit = [] := List.dropWhile_eq_nil_iff.2 h
  simp [readDecimal?, htake, hdrop, hne]

/-- A digit is its own small letter. -/
lemma toLower_of_isDigit {c : Char} (h : c.isDigit = true) : c.toLower = c := by
  refine Char.toLower_eq_of_not_isUpper ?_
  simp only [Char.isDigit, Char.isUpper, Bool.and_eq_true, decide_eq_true_eq, ge_iff_le] at h ⊢
  rintro ⟨hletter, -⟩
  exact absurd (UInt32.le_trans hletter h.2) (by decide)

/-- A run of digits is none of the words. -/
lemma readMagnitude?_digits (negative : Bool) (hne : digits ≠ [])
    (h : ∀ c ∈ digits, c.isDigit = true) :
    readMagnitude? negative digits = some (.decimal negative (decimalValue digits) 0) := by
  have hlower : digits.map Char.toLower = digits :=
    (List.map_congr_left fun c hc => toLower_of_isDigit (h c hc)).trans (List.map_id' digits)
  have hword : ∀ word, String.ofList digits = word → ∀ c ∈ word.toList, c.isDigit = true := by
    rintro word rfl
    rwa [String.toList_ofList]
  unfold readMagnitude?
  rw [hlower]
  split
  case h_1 heq => exact absurd (hword _ heq 'i' (by decide)) (by decide)
  case h_2 heq => exact absurd (hword _ heq 'i' (by decide)) (by decide)
  case h_3 heq => exact absurd (hword _ heq 'n' (by decide)) (by decide)
  case h_4 =>
    rw [readDecimal?_digits hne h]
    rfl

/-- Digits are read as a number without a sign. -/
lemma read?_digits (hne : digits ≠ []) (h : ∀ c ∈ digits, c.isDigit = true) :
    Numeral.read? digits = some (.decimal false (decimalValue digits) 0) := by
  have hnumeral := readMagnitude?_digits false hne h
  unfold Numeral.read?
  split
  case h_1 => exact absurd (h '-' List.mem_cons_self) (by decide)
  case h_2 => exact absurd (h '+' List.mem_cons_self) (by decide)
  case h_3 => exact hnumeral

/-- A writing of an integer is read, and what is read stands for the rounded integer. -/
theorem readFloat?_of_writes (h : Writes k s) (hsize : k.natAbs < 2 ^ 64) :
    ∃ x, readFloat? s = some x ∧ Denotes x (rounded k) := by
  cases h with
  | plain _ hne h =>
    rw [Int.natAbs_natCast] at hsize
    refine ⟨nearestFloat (decimalValue s) 0, ?_, denotes_nearestFloat hsize⟩
    simp [readFloat?, read?_digits hne h, Numeral.toFloat]
  | plus digits hne h =>
    rw [Int.natAbs_natCast] at hsize
    refine ⟨nearestFloat (decimalValue digits) 0, ?_, denotes_nearestFloat hsize⟩
    simp [readFloat?, Numeral.read?, readMagnitude?_digits false hne h, Numeral.toFloat]
  | minus digits hne h =>
    rw [Int.natAbs_neg, Int.natAbs_natCast] at hsize
    refine ⟨-nearestFloat (decimalValue digits) 0, ?_, ?_⟩
    · simp [readFloat?, Numeral.read?, readMagnitude?_digits true hne h, Numeral.toFloat]
    · rw [rounded_neg]
      exact (denotes_nearestFloat hsize).neg

/-! ### Writing -/

/-- The digits of a number have its value. -/
lemma decimalValue_toDigits (n : Nat) : decimalValue (Nat.toDigits 10 n) = n := by
  have h : Nat.ofDigitChars 10 (Nat.toDigits 10 n) 0 = n := Nat.ofDigitChars_ten_toDigits
  rw [Nat.ofDigitChars_eq_foldl] at h
  simpa only [decimalValue, Nat.mul_comm] using h

/-- The text of an integer is a writing of it. -/
theorem writes_integerText (n : Int64) : Writes n.toInt (integerText n).toList := by
  have hdigits : ∀ a : Nat, Nat.toDigits 10 a ≠ [] ∧ ∀ c ∈ Nat.toDigits 10 a, c.isDigit = true := by
    intro a
    exact ⟨Nat.toDigits_ne_nil,
      fun c hc => Nat.isDigit_of_mem_toDigits (by decide) (by decide) hc⟩
  have htext : ∀ i : Int, Writes i (toString i).toList := by
    intro i
    cases i with
    | ofNat a =>
      have hplain := Writes.plain (Nat.toDigits 10 a) (hdigits a).1 (hdigits a).2
      rw [decimalValue_toDigits, ← Nat.toList_repr] at hplain
      exact hplain
    | negSucc a =>
      have hminus := Writes.minus (Nat.toDigits 10 (a + 1)) (hdigits _).1 (hdigits _).2
      rw [decimalValue_toDigits, ← Nat.toList_repr] at hminus
      have hchars : (toString (Int.negSucc a)).toList = '-' :: (a + 1).repr.toList :=
        String.toList_append
      rw [hchars]
      exact hminus
  exact htext n.toInt

end TreeTemplate.Decimal
