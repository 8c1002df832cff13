import Mathlib
import TreeTemplate.Decimal.Reader
import TreeTemplate.Proofs.Decimal.Rounding

/-!
# Whole numbers as floats

The float nearest to a whole number stands for the number rounded to 53 significant bits, and floats
that stand for whole numbers compare as these do. A float is followed here through its unpacked
form: a sign, a significand of 53 bits and an exponent.

Main statements:

* `StandsFor.lt_eq` — floats compare as the numbers that they stand for;
* `standsFor_roundWithAccuracy` — what a significand of any length is rounded to;
* `denotes_floatOfInteger` — the float nearest to an integer stands for the rounded integer.
-/

namespace TreeTemplate.Decimal

open Float.Model
open Float.Model.UnpackedFloat hiding finite zero

variable {x y : UnpackedFloat} {a b : Int}

/-! ### Unpacked floats that stand for whole numbers -/

/-- An unpacked float stands for a whole number. Its significand has all of its 53 bits, and its
exponent is not so large that it could not be packed. -/
inductive StandsFor : UnpackedFloat → Int → Prop
  | zero (s : Sign) : StandsFor (.zero s) 0
  | finite (s : Sign) (m : Nat) (e : Int) (hpos : 0 < m) (v : Nat) (hlow : 2 ^ 52 ≤ m)
      (hhigh : m < 2 ^ 53) (hfrom : -52 ≤ e) (hto : e ≤ 971)
      (hvalue : m * 2 ^ (e + 52).toNat = v * 2 ^ 52) :
      StandsFor (.finite s m e hpos) (s.apply v)

/-- Significands of one length compare by their exponents first. -/
lemma mul_two_pow_lt_iff {m n : Nat} (hm : 2 ^ 52 ≤ m ∧ m < 2 ^ 53) (hn : 2 ^ 52 ≤ n ∧ n < 2 ^ 53)
    (e f : Nat) : m * 2 ^ e < n * 2 ^ f ↔ e < f ∨ e = f ∧ m < n := by
  have habove : ∀ {m n e f : Nat}, m < 2 ^ 53 → 2 ^ 52 ≤ n → e < f → m * 2 ^ e < n * 2 ^ f := by
    intro m n e f hm hn hlt
    calc m * 2 ^ e < 2 ^ 53 * 2 ^ e := Nat.mul_lt_mul_of_pos_right hm (Nat.two_pow_pos e)
      _ = 2 ^ 52 * 2 ^ (e + 1) := by ring
      _ ≤ n * 2 ^ f := Nat.mul_le_mul hn (Nat.pow_le_pow_right (by decide) hlt)
  rcases Nat.lt_trichotomy e f with hlt | rfl | hgt
  · simp [hlt, habove hm.2 hn.1 hlt]
  · simp [Nat.mul_lt_mul_right (Nat.two_pow_pos e)]
  · have hnot := Nat.lt_asymm (habove hn.2 hm.1 hgt)
    simp only [hnot, false_iff]
    omega

/-- Of two significands with all their bits the exponents decide which stands for less, then the
bits. -/
lemma value_lt_iff {m n v w : Nat} {e f : Int} (hm : 2 ^ 52 ≤ m ∧ m < 2 ^ 53)
    (hn : 2 ^ 52 ≤ n ∧ n < 2 ^ 53) (he : -52 ≤ e) (hf : -52 ≤ f)
    (hv : m * 2 ^ (e + 52).toNat = v * 2 ^ 52) (hw : n * 2 ^ (f + 52).toNat = w * 2 ^ 52) :
    v < w ↔ e < f ∨ e = f ∧ m < n := by
  have hexponents : ((e + 52).toNat < (f + 52).toNat ↔ e < f) ∧
      ((e + 52).toNat = (f + 52).toNat ↔ e = f) := by omega
  rw [← Nat.mul_lt_mul_right (Nat.two_pow_pos 52), ← hv, ← hw, mul_two_pow_lt_iff hm hn,
    hexponents.1, hexponents.2]

/-- A significand that is not zero stands for a positive number. -/
lemma value_pos {m v : Nat} {e : Int} (hm : 0 < m) (hv : m * 2 ^ (e + 52).toNat = v * 2 ^ 52) :
    0 < v := by
  have hpos : 0 < m * 2 ^ (e + 52).toNat := Nat.mul_pos hm (Nat.two_pow_pos _)
  rw [hv] at hpos
  omega

/-- Floats compare as the numbers that they stand for. -/
theorem StandsFor.lt_eq (hx : StandsFor x a) (hy : StandsFor y b) :
    x.lt y = decide (a < b) := by
  rw [Bool.eq_iff_iff, decide_eq_true_iff]
  cases hx with
  | zero s =>
    cases hy with
    | zero t => simp [UnpackedFloat.lt, UnpackedFloat.compare]
    | finite t n f hn w hlow hhigh hfrom hto hw =>
      have hpos := value_pos hn hw
      cases t <;> simp [UnpackedFloat.lt, UnpackedFloat.compare, Sign.apply]
      omega
  | finite s m e hm v hlow hhigh hfrom hto hv =>
    have hpos := value_pos hm hv
    cases hy with
    | zero t =>
      cases s <;> simp [UnpackedFloat.lt, UnpackedFloat.compare, Sign.apply]
      omega
    | finite t n f hn w hlow' hhigh' hfrom' hto' hw =>
      have hpos' := value_pos hn hw
      have hup := value_lt_iff ⟨hlow, hhigh⟩ ⟨hlow', hhigh'⟩ hfrom hfrom' hv hw
      have hdown := value_lt_iff ⟨hlow', hhigh'⟩ ⟨hlow, hhigh⟩ hfrom' hfrom hw hv
      -- of two negative numbers the one of the larger magnitude is below
      cases s with
      | positive =>
        cases t with
        | positive =>
          simp only [UnpackedFloat.lt, UnpackedFloat.compare, Sign.apply, beq_iff_eq,
            Option.some.injEq, Ordering.then_eq_lt, compare_lt_iff_lt, compare_eq_iff_eq]
          omega
        | negative => simp [UnpackedFloat.lt, UnpackedFloat.compare, Sign.apply]
      | negative =>
        cases t with
        | positive => simp [UnpackedFloat.lt, UnpackedFloat.compare, Sign.apply]; omega
        | negative =>
          simp only [UnpackedFloat.lt, UnpackedFloat.compare, Sign.apply, beq_iff_eq,
            Option.some.injEq, Ordering.swap_eq_lt, Ordering.then_eq_gt, compare_gt_iff_gt,
            compare_eq_iff_eq]
          omega

/-- What stands for a number stands, negated, for the opposite number. -/
lemma StandsFor.neg (hx : StandsFor x a) : StandsFor x.neg (-a) := by
  cases hx with
  | zero s => exact .zero (-s)
  | finite s m e hpos v hlow hhigh hfrom hto hvalue =>
    have h := StandsFor.finite (-s) m e hpos v hlow hhigh hfrom hto hvalue
    cases s <;> simpa [UnpackedFloat.neg, Sign.apply] using h

/-! ### Packing -/

/-- A significand that has all of its bits has 53 of them. -/
lemma log2_significand {m : Nat} (hlow : 2 ^ 52 ≤ m) (hhigh : m < 2 ^ 53) : m.log2 = 52 := by
  rw [Nat.log2_eq_iff (by omega)]
  exact ⟨hlow, hhigh⟩

/-- A significand with all of its bits is packed without the first one. -/
lemma pack_significand (s : Sign) {m b : Nat} {e : Int} (hpos : 0 < m) (hlow : 2 ^ 52 ≤ m)
    (hhigh : m < 2 ^ 53) (hb : (b : Int) = e + 1075) (hlast : b < 2047) :
    UnpackedFloat.pack Format.binary64 (.finite s m e hpos) =
      packComponents Format.binary64 s (BitVec.ofNat 11 b) (BitVec.ofNat 52 m) := by
  have hbiased : (e + (Format.binary64.exponentBias : Int) +
      Format.binary64.mantissaBitsWithoutImplicit).toNat = b := by
    simp only [Format.exponentBias]
    omega
  simp only [UnpackedFloat.pack, hbiased, log2_significand hlow hhigh, Format.mantissaBits]
  rw [if_neg (by omega), if_pos trivial]

/-- The first bit of a significand comes back unless the exponent is the smallest or the largest. -/
lemma unpack_packComponents (s : Sign) {m b : Nat} {e : Int} (hpos : 0 < m) (hlow : 2 ^ 52 ≤ m)
    (hhigh : m < 2 ^ 53) (hb : (b : Int) = e + 1075) (hfirst : 0 < b) (hlast : b < 2047) :
    UnpackedFloat.unpack Format.binary64
      (packComponents Format.binary64 s (BitVec.ofNat 11 b) (BitVec.ofNat 52 m)) =
        .finite s m e hpos := by
  have hexponent : (BitVec.ofNat 11 b).toNat = b := by
    rw [BitVec.toNat_ofNat]
    omega
  have hother : ∀ v : BitVec 11, b ≠ v.toNat → BitVec.ofNat 11 b ≠ v := by
    rintro v hv rfl
    exact hv hexponent.symm
  have hmantissa : (1#1 ++ BitVec.ofNat 52 m).toNat = m := by
    rw [BitVec.toNat_append, ← Nat.shiftLeft_add_eq_or_of_lt (BitVec.isLt _)]
    simp [Nat.shiftLeft_eq]
    omega
  simp only [UnpackedFloat.unpack, unpackMantissa_packComponents, unpackExponent_packComponents,
    unpackSign_packComponents, Sign.ofBitVec_toBitVec]
  rw [if_neg (hother (-1#11) (Nat.ne_of_lt hlast)), if_neg (hother 0#11 (Nat.ne_of_gt hfirst))]
  simp only [hmantissa, hexponent, Format.exponentBias]
  congr 1
  omega

/-- A float that stands for a whole number survives packing. -/
lemma StandsFor.unpack_pack (hx : StandsFor x a) :
    UnpackedFloat.unpack Format.binary64 (UnpackedFloat.pack Format.binary64 x) = x := by
  cases hx with
  | zero s => exact unpack_packedZero
  | finite s m e hpos v hlow hhigh hfrom hto hvalue =>
    obtain ⟨b, hb⟩ : ∃ b : Nat, (b : Int) = e + 1075 := ⟨(e + 1075).toNat, by omega⟩
    rw [pack_significand s hpos hlow hhigh hb (by omega)]
    exact unpack_packComponents s hpos hlow hhigh hb (by omega) (by omega)

/-! ### Rounding -/

/-- What a significand keeps of a number from which `k` bits were shifted out: the bits that are
left, whether the rest is at least half of a unit, and whether it is neither nothing nor half of
one. -/
structure Keeps (em : ExtendedMantissa) (n k : Nat) : Prop where
  mantissa : em.mantissa = n / 2 ^ k
  roundBit : em.roundBit = decide (2 ^ k ≤ 2 * (n % 2 ^ k))
  stickyBit : em.stickyBit = decide (n % 2 ^ k ≠ 0 ∧ 2 * (n % 2 ^ k) ≠ 2 ^ k)

/-- What is kept of a number when one more bit is shifted out. -/
lemma Keeps.shiftRightOne {em : ExtendedMantissa} {n k : Nat} (h : Keeps em n k) :
    Keeps em.shiftRightOne n (k + 1) := by
  have hpos : 0 < 2 ^ k := Nat.two_pow_pos k
  have hrest : n % 2 ^ k < 2 ^ k := Nat.mod_lt _ hpos
  have hmod : n % 2 ^ (k + 1) = n % 2 ^ k + 2 ^ k * (n / 2 ^ k % 2) := by
    rw [pow_succ, Nat.mod_mul]
  have hdouble : 2 ^ (k + 1) = 2 * 2 ^ k := by
    rw [pow_succ, Nat.mul_comm]
  refine ⟨?_, ?_, ?_⟩
  · rw [ExtendedMantissa.shiftRightOne, h.mantissa, pow_succ, Nat.div_div_eq_div_mul]
  · rw [ExtendedMantissa.shiftRightOne, h.mantissa, hmod, hdouble, Bool.eq_iff_iff]
    rcases Nat.mod_two_eq_zero_or_one (n / 2 ^ k) with hbit | hbit <;> simp [hbit]
    omega
  · rw [ExtendedMantissa.shiftRightOne, h.roundBit, h.stickyBit, hmod, hdouble, Bool.eq_iff_iff]
    rcases Nat.mod_two_eq_zero_or_one (n / 2 ^ k) with hbit | hbit <;> simp [hbit] <;> omega

/-- Shifting a whole number keeps what is needed to round it. -/
lemma keeps_shiftRight (n k : Nat) :
    Keeps (ExtendedMantissa.ofMantissaAndAccuracy n .exact >>> k) n k := by
  change Keeps (Nat.repeat ExtendedMantissa.shiftRightOne k _) n k
  induction k with
  | zero =>
    refine ⟨?_, ?_, ?_⟩ <;> simp [Nat.repeat, ExtendedMantissa.ofMantissaAndAccuracy, Nat.mod_one]
  | succ k ih => exact ih.shiftRightOne

/-- A significand is rounded to the nearest one, or to the even one of two. -/
lemma Keeps.roundedMantissa {em : ExtendedMantissa} {n k : Nat} (h : Keeps em n k) :
    em.roundedMantissa = halfEven n k := by
  obtain ⟨mantissa, roundBit, stickyBit⟩ := em
  obtain ⟨hmantissa, hround, hsticky⟩ := h
  dsimp only at hmantissa hround hsticky
  have hpos : 0 < 2 ^ k := Nat.two_pow_pos k
  unfold halfEven
  -- the two bits tell nothing, less than half, half and more than half of a unit apart
  cases roundBit <;> cases stickyBit <;>
    simp only [Bool.true_eq, Bool.false_eq, decide_eq_true_eq, decide_eq_false_iff_not]
      at hround hsticky <;>
    simp only [ExtendedMantissa.roundedMantissa, ExtendedMantissa.accuracy,
      Accuracy.roundToNearestEven, hmantissa] <;> split <;> omega

/-- A number of more than 52 bits is shifted until 53 bits are left. -/
lemma shiftToTargetExponent_eq {n : Nat} {e : Int} (hlog : 52 ≤ n.log2)
    (he : -1074 ≤ e + (n.log2 - 52 : Nat)) :
    shiftToTargetExponent Format.binary64 n e .exact =
      (ExtendedMantissa.ofMantissaAndAccuracy n .exact >>> (n.log2 - 52),
        e + (n.log2 - 52 : Nat)) := by
  have hshift : (Format.binary64.targetExponent (totalExponent n e) - e).toNat = n.log2 - 52 := by
    simp only [Format.targetExponent, totalExponent, Format.mantissaBits, Format.minExponent]
    omega
  simp only [shiftToTargetExponent, shiftToExponent, hshift]

/-- Rounding shifts twice: the number itself, and what that is rounded to. -/
lemma roundWithAccuracy_of {s : Sign} {n h m : Nat} {e f g : Int} {first second : ExtendedMantissa}
    (hfirst : shiftToTargetExponent Format.binary64 n e .exact = (first, f))
    (hrounded : first.roundedMantissa = h)
    (hsecond : shiftToTargetExponent Format.binary64 h f .exact = (second, g))
    (hmantissa : second.mantissa = m) (hpos : 0 < m) :
    roundWithAccuracy Format.binary64 s n e .exact = .finite s m g hpos := by
  subst hrounded hmantissa
  simp only [roundWithAccuracy, hfirst, hsecond]
  rw [dif_neg (Nat.ne_of_gt hpos)]

/-- A number of more than 52 bits is rounded to 53 bits. When that carries into a 54th bit, one more
is shifted out. -/
theorem roundWithAccuracy_eq (s : Sign) {n : Nat} {e : Int} (hlog : 52 ≤ n.log2)
    (he : -1074 ≤ e + (n.log2 - 52 : Nat)) :
    (∃ hpos, halfEven n (n.log2 - 52) < 2 ^ 53 ∧
      roundWithAccuracy Format.binary64 s n e .exact =
        .finite s (halfEven n (n.log2 - 52)) (e + (n.log2 - 52 : Nat)) hpos) ∨
    (halfEven n (n.log2 - 52) = 2 ^ 53 ∧
      roundWithAccuracy Format.binary64 s n e .exact =
        .finite s (2 ^ 52) (e + (n.log2 - 52 : Nat) + 1) (by decide)) := by
  obtain ⟨hlow, hhigh⟩ := halfEven_bounds hlog
  have hrounded := (keeps_shiftRight n (n.log2 - 52)).roundedMantissa
  have hsecond : ∀ {h k : Nat}, h.log2 - 52 = k → 52 ≤ h.log2 →
      shiftToTargetExponent Format.binary64 h (e + (n.log2 - 52 : Nat)) .exact =
        (ExtendedMantissa.ofMantissaAndAccuracy h .exact >>> k, e + (n.log2 - 52 : Nat) + k) := by
    rintro h k rfl hh
    exact shiftToTargetExponent_eq hh (by omega)
  rcases Nat.lt_or_eq_of_le hhigh with hlt | heq
  · have hsize : (halfEven n (n.log2 - 52)).log2 = 52 := log2_significand hlow hlt
    have hkeeps := (keeps_shiftRight (halfEven n (n.log2 - 52)) 0).mantissa
    rw [pow_zero, Nat.div_one] at hkeeps
    refine .inl ⟨by omega, hlt, ?_⟩
    rw [roundWithAccuracy_of (shiftToTargetExponent_eq hlog he) hrounded
      (hsecond (by rw [hsize]) (by rw [hsize])) hkeeps (by omega)]
    simp
  · -- the carry leaves nothing but a power of two, so the second shift loses nothing
    have hkeeps := (keeps_shiftRight (2 ^ 53) 1).mantissa
    have hsize : (2 ^ 53).log2 = 53 := Nat.log2_two_pow
    rw [heq] at hrounded
    exact .inr ⟨heq, roundWithAccuracy_of (shiftToTargetExponent_eq hlog he) hrounded
      (hsecond (by rw [hsize]) (by rw [hsize]; decide)) hkeeps (by decide)⟩

/-- A number of at most 64 bits, given with at least 53, is rounded to a float that stands for the
rounded number. -/
theorem standsFor_roundWithAccuracy (s : Sign) {n k : Nat} (hn : n ≠ 0) (hsize : n.log2 < 64)
    (hlog : 52 ≤ n.log2 + k) :
    StandsFor (roundWithAccuracy Format.binary64 s (n * 2 ^ k) (-k) .exact)
      (s.apply (roundedNat n)) := by
  have hbits := log2_mul_two_pow hn k
  have hvalue := halfEven_mul_two_pow hn hlog
  have hbounds := halfEven_bounds (by omega : 52 ≤ (n * 2 ^ k).log2)
  have hround := roundWithAccuracy_eq s (n := n * 2 ^ k) (e := -k) (by omega) (by omega)
  rw [hbits] at hbounds hround
  -- however many zeros were appended, the unit that is rounded to is the same
  have hexponent : (-k : Int) + (n.log2 + k - 52 : Nat) = n.log2 - 52 := by omega
  rw [hexponent] at hround
  rcases hround with ⟨hpos, hlt, heq⟩ | ⟨hover, heq⟩
  · rw [heq]
    refine .finite s _ _ hpos _ hbounds.1 hlt (by omega) (by omega) ?_
    rw [show ((n.log2 : Int) - 52 + 52).toNat = n.log2 by omega]
    exact hvalue
  · rw [heq]
    refine .finite s _ _ _ _ (Nat.le_refl _) (by decide) (by omega) (by omega) ?_
    rw [show ((n.log2 : Int) - 52 + 1 + 52).toNat = n.log2 + 1 by omega, ← hvalue, hover]
    ring

/-- The float one, unpacked. -/
def one : UnpackedFloat :=
  .finite .positive (2 ^ 52) (-52) (by decide)

/-- One is neutral. -/
lemma StandsFor.mul_one (hx : StandsFor x a) : UnpackedFloat.mul Format.binary64 x one = x := by
  cases hx with
  | zero s => cases s <;> rfl
  | finite s m e hpos v hlow hhigh hfrom hto hvalue =>
    have hlog := log2_significand hlow hhigh
    have hbits := log2_mul_two_pow (Nat.ne_of_gt hpos) 52
    rw [hlog] at hbits
    have hround := roundWithAccuracy_eq s (n := m * 2 ^ 52) (e := e + -52) (by omega) (by omega)
    rw [hbits, halfEven_mul_self] at hround
    have hsign : s * Sign.positive = s := by cases s <;> rfl
    have hmul : UnpackedFloat.mul Format.binary64 (.finite s m e hpos) one =
        roundWithAccuracy Format.binary64 s (m * 2 ^ 52) (e + -52) .exact := by
      simp only [UnpackedFloat.mul, one, hsign]
    rw [hmul]
    rcases hround with ⟨_, _, heq⟩ | ⟨hover, _⟩
    · rw [heq]
      congr 1
      omega
    · omega

/-! ### Floats -/

/-- A float stands for a whole number. -/
def Denotes (x : Float) (n : Int) : Prop :=
  StandsFor x.toModel.unpack n

/-- A float stands for what it stands for before it is packed. -/
lemma denotes_pack (hx : StandsFor x a) : Denotes (.ofModel (.pack x)) a := by
  have h := hx.unpack_pack
  unfold Denotes
  change StandsFor (UnpackedFloat.unpack Format.binary64 (UnpackedFloat.pack Format.binary64 x)) a
  rwa [h]

/-- Zero stands for zero. -/
lemma denotes_zero : Denotes 0.0 0 :=
  .zero .positive

/-- The opposite of a float stands for the opposite of a number. -/
lemma Denotes.neg {f : Float} (hf : Denotes f a) : Denotes (-f) (-a) :=
  denotes_pack (StandsFor.neg hf)

/-- Floats compare as the numbers that they stand for. -/
theorem Denotes.lt_iff {f g : Float} (hf : Denotes f a) (hg : Denotes g b) : f < g ↔ a < b := by
  have hlt : f < g ↔ UnpackedFloat.lt f.toModel.unpack g.toModel.unpack = true := by
    change decide (f.toModel < g.toModel) = true ↔ _
    rw [decide_eq_true_iff]
    rfl
  rw [hlt, StandsFor.lt_eq hf hg, decide_eq_true_iff]

/-- A number of at most 53 bits, through a word. -/
lemma denotes_toFloat {n : Nat} (hn : n ≠ 0) (hlt : n < 2 ^ 53) :
    Denotes n.toUInt64.toFloat (roundedNat n) := by
  have hlog : n.log2 < 53 := (Nat.log2_lt hn).2 hlt
  have hword : n.toUInt64.toNat = n := by
    rw [Nat.toUInt64_eq, UInt64.toNat_ofNat']
    exact Nat.mod_eq_of_lt (by omega)
  have hpos : compare (n : Int) 0 = .gt := by
    rw [compare_gt_iff_gt]
    omega
  -- the number is moved to the left until it has 53 bits
  have hshift : (0 - Format.binary64.targetExponent (totalExponent n 0)).toNat = 52 - n.log2 := by
    simp only [Format.targetExponent, totalExponent, Format.mantissaBits, Format.minExponent]
    omega
  refine denotes_pack ?_
  rw [UnpackedFloat.ofUInt64, hword, UnpackedFloat.ofNat, UnpackedFloat.ofInt,
    UnpackedFloat.normalize, hpos]
  simp only [UnpackedFloat.round, Int.toNat_natCast, decreaseExponent, hshift, Nat.shiftLeft_eq]
  rw [Int.zero_sub]
  exact standsFor_roundWithAccuracy .positive hn (by omega) (by omega)

/-- A number of 64 bits is read as a float that stands for the nearest number. -/
lemma denotes_ofScientific {n : Nat} (hn : n ≠ 0) (hlt : n < 2 ^ 64) :
    Denotes (Float.ofScientific n false 0) (roundedNat n) := by
  have hlog : n.log2 < 64 := (Nat.log2_lt hn).2 hlt
  unfold Float.ofScientific
  split
  case isTrue h =>
    -- the product with one
    have hword := denotes_toFloat hn h.1
    have hmul := StandsFor.mul_one hword
    have hone :
        (getElem Float.exactlyRepresentablePowersOfTen 0 (by decide)).toModel.unpack = one := rfl
    refine denotes_pack ?_
    change StandsFor (UnpackedFloat.mul Format.binary64 n.toUInt64.toFloat.toModel.unpack
      (getElem Float.exactlyRepresentablePowersOfTen 0 (by decide)).toModel.unpack) _
    rw [hone, hmul]
    exact hword
  case isFalse h =>
    -- the significand is given with 53 more bits, so that nothing is lost before it is rounded
    have hlarge : 53 ≤ n.log2 := (Nat.le_log2 hn).2 (by omega)
    have hround := standsFor_roundWithAccuracy .positive (k := 53) hn (by omega) (by omega)
    have hmul : UnpackedFloat.ofScientific Format.binary64 n 0 =
        roundWithAccuracy Format.binary64 .positive (n * 2 ^ 53) (-53) .exact := by
      have hsign : Sign.positive * Sign.positive = .positive := rfl
      simp only [UnpackedFloat.ofScientific, UnpackedFloat.mul, hsign, Nat.shiftLeft_eq,
        Format.mantissaBits]
      rw [dif_neg hn, if_neg (by decide), if_neg (by omega), if_pos (Int.le_refl 0)]
      simp
    refine denotes_pack ?_
    change StandsFor (UnpackedFloat.ofScientific Format.binary64 n 0) _
    rw [hmul]
    exact hround

/-- The float nearest to a number of 64 bits stands for the rounded number. -/
theorem denotes_nearestFloat {n : Nat} (hlt : n < 2 ^ 64) :
    Denotes (nearestFloat n 0) (rounded n) := by
  rw [rounded_natCast]
  rcases Nat.eq_zero_or_pos n with rfl | hpos
  · exact denotes_zero
  · have hn : n ≠ 0 := Nat.ne_of_gt hpos
    have hlog : n.log2 < 64 := (Nat.log2_lt hn).2 hlt
    have hsize : sizeBelow n ≤ 18 := by
      unfold sizeBelow
      omega
    unfold nearestFloat
    rw [if_neg hn, if_neg (by omega), if_neg (by omega)]
    exact denotes_ofScientific hn hlt

/-- The float nearest to an integer stands for the rounded integer. -/
theorem denotes_floatOfInteger (n : Int64) : Denotes (floatOfInteger n) (rounded n.toInt) := by
  have hlow := n.le_toInt
  have hhigh := n.toInt_lt
  have habs := denotes_nearestFloat (n := n.toInt.natAbs) (by omega)
  unfold floatOfInteger
  split
  case isTrue h =>
    have hneg := habs.neg
    rwa [← rounded_neg, show -((n.toInt.natAbs : Int)) = n.toInt by omega] at hneg
  case isFalse h =>
    rwa [show (n.toInt.natAbs : Int) = n.toInt by omega] at habs

end TreeTemplate.Decimal
