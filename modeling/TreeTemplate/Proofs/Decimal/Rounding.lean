import Mathlib.Algebra.Order.Ring.Nat
import Mathlib.Data.Nat.Log
import Mathlib.Tactic.Lemma
import Mathlib.Tactic.Ring

/-!
# Rounding whole numbers

The whole numbers that have at most 53 significant bits, and the nearest of them to a whole number;
of two that are equally near, the one with the even significand. These are the whole numbers that a
float can stand for, as far as 64 bits reach.

Main statements:

* `rounded_mono` — rounding keeps the order;
* `rounded_of_le` — up to 53 bits nothing is rounded;
* `natAbs_sub_rounded_le` — no number of 53 significant bits is nearer.
-/

namespace TreeTemplate.Decimal

variable {n m e : Nat}

/-- A number in units of `2 ^ e`, rounded to the nearest whole number, or to the even one of two. -/
def halfEven (n e : Nat) : Nat :=
  if 2 * (n % 2 ^ e) < 2 ^ e ∨ (2 * (n % 2 ^ e) = 2 ^ e ∧ n / 2 ^ e % 2 = 0) then n / 2 ^ e
  else n / 2 ^ e + 1

/-- A natural number rounded to 53 significant bits. -/
def roundedNat (n : Nat) : Nat :=
  halfEven n (n.log2 - 52) * 2 ^ (n.log2 - 52)

/-- A whole number rounded to 53 significant bits. -/
def rounded (n : Int) : Int :=
  n.sign * roundedNat n.natAbs

/-- A whole number has at most 53 significant bits. -/
def Significant (n : Int) : Prop :=
  ∃ significand e : Nat, significand < 2 ^ 53 ∧ n.natAbs = significand * 2 ^ e

/-! ### Rounding in a unit -/

/-- Rounding goes to one of the two nearest, the lower of which is not greater. -/
lemma le_halfEven (n e : Nat) : n / 2 ^ e ≤ halfEven n e := by
  unfold halfEven
  split <;> omega

/-- Rounding goes to one of the two nearest, the upper of which is not smaller. -/
lemma halfEven_le (n e : Nat) : halfEven n e ≤ n / 2 ^ e + 1 := by
  unfold halfEven
  split <;> omega

/-- A smaller unit changes nothing when the number is given in it. -/
lemma halfEven_mul (n e k : Nat) : halfEven (n * 2 ^ k) (e + k) = halfEven n e := by
  have hpos : 0 < 2 ^ k := Nat.two_pow_pos k
  have hdiv : n * 2 ^ k / (2 ^ e * 2 ^ k) = n / 2 ^ e := Nat.mul_div_mul_right _ _ hpos
  have hmod : 2 * (n * 2 ^ k % (2 ^ e * 2 ^ k)) = 2 * (n % 2 ^ e) * 2 ^ k := by
    rw [Nat.mul_mod_mul_right, Nat.mul_assoc]
  simp only [halfEven, pow_add, hdiv, hmod, Nat.mul_lt_mul_right hpos,
    Nat.mul_left_inj (Nat.ne_of_gt hpos)]

/-- A number from which no bits are shifted out is not rounded. -/
lemma halfEven_zero (n : Nat) : halfEven n 0 = n := by
  simp [halfEven, Nat.mod_one]

/-- A number is not rounded if the bits that are shifted out are zero. -/
lemma halfEven_mul_self (n k : Nat) : halfEven (n * 2 ^ k) k = n := by
  have h := halfEven_mul n 0 k
  rwa [Nat.zero_add, halfEven_zero] at h

/-- Rounding in a unit keeps the order. -/
lemma halfEven_mono (h : n ≤ m) (e : Nat) : halfEven n e ≤ halfEven m e := by
  have hdiv : n / 2 ^ e ≤ m / 2 ^ e := Nat.div_le_div_right h
  rcases Nat.lt_or_eq_of_le hdiv with hlt | heq
  · exact Nat.le_trans (halfEven_le n e) (Nat.le_trans hlt (le_halfEven m e))
  · -- in the same unit the larger number leaves the larger rest
    have hn := Nat.div_add_mod n (2 ^ e)
    have hm := Nat.div_add_mod m (2 ^ e)
    rw [heq] at hn
    unfold halfEven
    rw [heq]
    split <;> split <;> omega

/-- No multiple of the unit is nearer. -/
lemma natAbs_sub_halfEven_le (n e a : Nat) :
    ((n : Int) - (halfEven n e * 2 ^ e : Nat)).natAbs ≤ ((n : Int) - (a * 2 ^ e : Nat)).natAbs := by
  have hn := Nat.div_add_mod' n (2 ^ e)
  have hrest : n % 2 ^ e < 2 ^ e := Nat.mod_lt _ (Nat.two_pow_pos e)
  have hside : a * 2 ^ e ≤ n / 2 ^ e * 2 ^ e ∨ n / 2 ^ e * 2 ^ e + 2 ^ e ≤ a * 2 ^ e := by
    rcases Nat.lt_or_ge (n / 2 ^ e) a with hlt | hge
    · have hmul := Nat.mul_le_mul_right (2 ^ e) (Nat.succ_le_of_lt hlt)
      rw [Nat.succ_mul] at hmul
      exact .inr hmul
    · exact .inl (Nat.mul_le_mul_right _ hge)
  unfold halfEven
  split
  case isTrue h => omega
  case isFalse h =>
    rw [Nat.succ_mul]
    omega

/-! ### Natural numbers -/

/-- A number of at most 53 bits is not rounded. -/
lemma roundedNat_of_lt (h : n < 2 ^ 53) : roundedNat n = n := by
  have hsize : n.log2 - 52 = 0 := by
    have hlog : n.log2 < 53 := by
      rcases Nat.eq_zero_or_pos n with rfl | hpos
      · decide
      · exact (Nat.log2_lt (Nat.ne_of_gt hpos)).2 h
    omega
  rw [roundedNat, hsize, halfEven_zero, pow_zero, Nat.mul_one]

/-- The significand of a number with more than 52 bits has 53 of them. -/
lemma halfEven_bounds (h : 52 ≤ n.log2) :
    2 ^ 52 ≤ halfEven n (n.log2 - 52) ∧ halfEven n (n.log2 - 52) ≤ 2 ^ 53 := by
  have hne : n ≠ 0 := by
    rintro rfl
    exact absurd h (by decide)
  have hlow : 2 ^ 52 * 2 ^ (n.log2 - 52) ≤ n := by
    rw [← pow_add, Nat.add_sub_cancel' h]
    exact Nat.log2_self_le hne
  have hhigh : n < 2 ^ 53 * 2 ^ (n.log2 - 52) := by
    rw [← pow_add, show 53 + (n.log2 - 52) = n.log2 + 1 by omega]
    exact Nat.lt_log2_self
  have hfrom : 2 ^ 52 ≤ n / 2 ^ (n.log2 - 52) :=
    (Nat.le_div_iff_mul_le (Nat.two_pow_pos _)).2 hlow
  have hto : n / 2 ^ (n.log2 - 52) < 2 ^ 53 :=
    (Nat.div_lt_iff_lt_mul (Nat.two_pow_pos _)).2 hhigh
  have h₁ := le_halfEven n (n.log2 - 52)
  have h₂ := halfEven_le n (n.log2 - 52)
  omega

/-- Rounding does not leave the range between two powers of two. -/
lemma roundedNat_bounds (hn : n ≠ 0) :
    2 ^ n.log2 ≤ roundedNat n ∧ roundedNat n ≤ 2 ^ (n.log2 + 1) := by
  rcases Nat.lt_or_ge n.log2 52 with hlt | hge
  · have hsmall : n < 2 ^ 53 := (Nat.log2_lt hn).1 (by omega)
    rw [roundedNat_of_lt hsmall]
    exact ⟨Nat.log2_self_le hn, Nat.le_of_lt Nat.lt_log2_self⟩
  · obtain ⟨hlow, hhigh⟩ := halfEven_bounds hge
    have hfrom := Nat.mul_le_mul_right (2 ^ (n.log2 - 52)) hlow
    have hto := Nat.mul_le_mul_right (2 ^ (n.log2 - 52)) hhigh
    rw [← pow_add, Nat.add_sub_cancel' hge] at hfrom
    rw [← pow_add, show 53 + (n.log2 - 52) = n.log2 + 1 by omega] at hto
    exact ⟨hfrom, hto⟩

/-- Bits that are put behind a number make it longer by as many. -/
lemma log2_mul_two_pow (hn : n ≠ 0) (k : Nat) : (n * 2 ^ k).log2 = n.log2 + k := by
  have hpos : 0 < 2 ^ k := Nat.two_pow_pos k
  rw [Nat.log2_eq_iff (Nat.mul_ne_zero hn (Nat.ne_of_gt hpos))]
  constructor
  · rw [pow_add]
    exact Nat.mul_le_mul_right _ (Nat.log2_self_le hn)
  · rw [show n.log2 + k + 1 = n.log2 + 1 + k by omega, pow_add _ (n.log2 + 1)]
    exact Nat.mul_lt_mul_of_pos_right Nat.lt_log2_self hpos

/-- The significand of a number, given with at least 53 bits. -/
lemma halfEven_mul_two_pow {k : Nat} (hn : n ≠ 0) (hlog : 52 ≤ n.log2 + k) :
    halfEven (n * 2 ^ k) (n.log2 + k - 52) * 2 ^ n.log2 = roundedNat n * 2 ^ 52 := by
  rcases Nat.lt_or_ge n.log2 52 with hlt | hge
  · have hk : 2 ^ k = 2 ^ (52 - n.log2) * 2 ^ (n.log2 + k - 52) := by
      rw [← pow_add]
      congr 1
      omega
    rw [hk, ← Nat.mul_assoc, halfEven_mul_self, Nat.mul_assoc, ← pow_add,
      roundedNat_of_lt ((Nat.log2_lt hn).1 (by omega)), Nat.sub_add_cancel (Nat.le_of_lt hlt)]
  · have hpow : 2 ^ n.log2 = 2 ^ (n.log2 - 52) * 2 ^ 52 := by
      rw [← pow_add, Nat.sub_add_cancel hge]
    rw [show n.log2 + k - 52 = n.log2 - 52 + k by omega, halfEven_mul, hpow, ← Nat.mul_assoc,
      roundedNat]

/-- A greater number is not shorter. -/
lemma log2_mono (h : n ≤ m) : n.log2 ≤ m.log2 := by
  simpa only [Nat.log2_eq_log_two] using Nat.log_mono_right h

/-- Rounding keeps the order of natural numbers. -/
lemma roundedNat_mono (h : n ≤ m) : roundedNat n ≤ roundedNat m := by
  rcases Nat.eq_zero_or_pos n with rfl | hpos
  · rw [roundedNat_of_lt (by decide)]
    exact Nat.zero_le _
  · rcases Nat.lt_or_eq_of_le (log2_mono h) with hlt | heq
    · have hn := (roundedNat_bounds (Nat.ne_of_gt hpos)).2
      have hm := (roundedNat_bounds (Nat.ne_of_gt (Nat.lt_of_lt_of_le hpos h))).1
      exact Nat.le_trans hn (Nat.le_trans (Nat.pow_le_pow_right (by decide) hlt) hm)
    · rw [roundedNat, roundedNat, heq]
      exact Nat.mul_le_mul_right _ (halfEven_mono h _)

/-- No natural number of 53 significant bits is nearer. -/
lemma natAbs_sub_roundedNat_le {significand : Nat} (h : significand < 2 ^ 53) (n e : Nat) :
    ((n : Int) - roundedNat n).natAbs ≤ ((n : Int) - (significand * 2 ^ e : Nat)).natAbs := by
  rcases Nat.lt_or_ge n (2 ^ 53) with hlt | hge
  · rw [roundedNat_of_lt hlt]
    simp
  · have hne : n ≠ 0 := by omega
    have hsize : 53 ≤ n.log2 := (Nat.le_log2 hne).2 hge
    have hlow : 2 ^ 52 * 2 ^ (n.log2 - 52) ≤ n := by
      rw [← pow_add, Nat.add_sub_cancel' (by omega)]
      exact Nat.log2_self_le hne
    rcases Nat.lt_or_ge e (n.log2 - 52) with hsmall | hlarge
    · -- in a smaller unit the number is below the range, whose lower end is a multiple of the unit
      have hbelow : significand * 2 ^ e ≤ 2 ^ 52 * 2 ^ (n.log2 - 52) := by
        calc significand * 2 ^ e ≤ 2 ^ 53 * 2 ^ e := Nat.mul_le_mul_right _ (Nat.le_of_lt h)
          _ = 2 ^ 52 * 2 ^ (e + 1) := by ring
          _ ≤ 2 ^ 52 * 2 ^ (n.log2 - 52) :=
              Nat.mul_le_mul_left _ (Nat.pow_le_pow_right (by decide) hsmall)
      have hend := natAbs_sub_halfEven_le n (n.log2 - 52) (2 ^ 52)
      rw [roundedNat]
      omega
    · have hmultiple : significand * 2 ^ e =
          significand * 2 ^ (e - (n.log2 - 52)) * 2 ^ (n.log2 - 52) := by
        rw [Nat.mul_assoc, ← pow_add, Nat.sub_add_cancel hlarge]
      rw [hmultiple]
      exact natAbs_sub_halfEven_le n (n.log2 - 52) _

/-! ### Whole numbers -/

/-- A natural number is rounded as such. -/
lemma rounded_natCast (n : Nat) : rounded n = roundedNat n := by
  rcases Nat.eq_zero_or_pos n with rfl | hpos
  · rw [roundedNat_of_lt (by decide)]
    rfl
  · rw [rounded, Int.natAbs_natCast, Int.sign_natCast_of_ne_zero (Nat.ne_of_gt hpos), Int.one_mul]

/-- A negative number is rounded as its opposite. -/
lemma rounded_neg (n : Int) : rounded (-n) = -rounded n := by
  rw [rounded, rounded, Int.natAbs_neg, Int.sign_neg, Int.neg_mul]

/-- Up to 53 bits nothing is rounded. -/
theorem rounded_of_le {n : Int} (h : n.natAbs ≤ 2 ^ 53) : rounded n = n := by
  have hnat : roundedNat n.natAbs = n.natAbs := by
    rcases Nat.lt_or_eq_of_le h with hlt | heq
    · exact roundedNat_of_lt hlt
    · rw [heq]
      decide
  rw [rounded, hnat, Int.sign_mul_natAbs]

/-- Rounding keeps the order. -/
theorem rounded_mono {n m : Int} (h : n ≤ m) : rounded n ≤ rounded m := by
  have hnonneg : ∀ k : Nat, 0 ≤ rounded k := fun k => by
    rw [rounded_natCast]
    exact Int.natCast_nonneg _
  obtain ⟨a, rfl | rfl⟩ := n.eq_nat_or_neg
  · obtain ⟨b, rfl⟩ := Int.eq_ofNat_of_zero_le (Int.le_trans (Int.natCast_nonneg a) h)
    rw [rounded_natCast, rounded_natCast]
    exact_mod_cast roundedNat_mono (Int.ofNat_le.1 h)
  · obtain ⟨b, rfl | rfl⟩ := m.eq_nat_or_neg
    · rw [rounded_neg]
      have ha := hnonneg a
      have hb := hnonneg b
      omega
    · rw [rounded_neg, rounded_neg, rounded_natCast, rounded_natCast]
      have hmono : roundedNat b ≤ roundedNat a := roundedNat_mono (by omega)
      omega

/-- The rounded number has 53 significant bits. -/
theorem significant_rounded (n : Int) : Significant (rounded n) := by
  have habs : (rounded n).natAbs = roundedNat n.natAbs := by
    obtain ⟨a, rfl | rfl⟩ := n.eq_nat_or_neg
    · rw [rounded_natCast, Int.natAbs_natCast, Int.natAbs_natCast]
    · rw [rounded_neg, rounded_natCast, Int.natAbs_neg, Int.natAbs_neg, Int.natAbs_natCast,
        Int.natAbs_natCast]
  unfold Significant
  rw [habs]
  rcases Nat.lt_or_ge n.natAbs.log2 52 with hlt | hge
  · have hsmall : n.natAbs < 2 ^ 53 := by
      rcases Nat.eq_zero_or_pos n.natAbs with hzero | hpos
      · omega
      · exact (Nat.log2_lt (Nat.ne_of_gt hpos)).1 (by omega)
    exact ⟨n.natAbs, 0, hsmall, by rw [roundedNat_of_lt hsmall, pow_zero, Nat.mul_one]⟩
  · rcases Nat.lt_or_eq_of_le (halfEven_bounds hge).2 with hlt | heq
    · exact ⟨_, _, hlt, rfl⟩
    · exact ⟨2 ^ 52, n.natAbs.log2 - 52 + 1, by decide, by rw [roundedNat, heq]; ring⟩

/-- No whole number of 53 significant bits is nearer. -/
theorem natAbs_sub_rounded_le {m : Int} (h : Significant m) (n : Int) :
    (n - rounded n).natAbs ≤ (n - m).natAbs := by
  have hnat : ∀ (k : Nat) {m : Int}, Significant m →
      ((k : Int) - rounded k).natAbs ≤ ((k : Int) - m).natAbs := by
    rintro k m ⟨significand, e, hlt, hm⟩
    have hsame := natAbs_sub_roundedNat_le hlt k e
    have hzero := natAbs_sub_roundedNat_le (by decide : 0 < 2 ^ 53) k 0
    rw [rounded_natCast]
    rw [← hm] at hsame
    -- a number of the other sign is further away than zero
    omega
  obtain ⟨a, rfl | rfl⟩ := n.eq_nat_or_neg
  · exact hnat a h
  · have hneg : Significant (-m) := by
      obtain ⟨significand, e, hlt, hm⟩ := h
      exact ⟨significand, e, hlt, by rw [Int.natAbs_neg, hm]⟩
    have hopposite := hnat a hneg
    rw [rounded_neg]
    omega

end TreeTemplate.Decimal
