/-!
# The shortest decimal of a binary number

A finite floating point number stands for the interval of reals that round to it. Among the
decimals of that interval, the shortest is the one with the fewest digits, and of those the one
nearest to the number; of two that are equally near, the larger.

Main statements:

* `atScale?_readsBack` — a decimal that is selected lies in the interval.
-/

namespace TreeTemplate.Decimal

/-- A finite number that is not negative, `mantissa * 2 ^ exponent`. -/
structure Binary where
  mantissa : Nat
  exponent : Int
  /-- Whether the gap to the number below is half the gap to the number above. -/
  narrowBelow : Bool
deriving Repr, DecidableEq

/-- The number that the bits of a finite float stand for, without its sign. -/
def Binary.ofBits (bits : UInt64) : Binary :=
  let power := ((bits >>> 52) &&& 0x7FF).toNat
  let fraction := (bits &&& 0xFFFFFFFFFFFFF).toNat
  if power = 0 then ⟨fraction, -1074, false⟩
  else ⟨0x10000000000000 + fraction, (power : Int) - 1075, fraction == 0 && power > 1⟩

/-- A decimal number, `digits * 10 ^ exponent`. -/
structure Scaled where
  digits : Nat
  exponent : Int
deriving Repr, DecidableEq

/-- Compares `a * 10 ^ i` with `n * 2 ^ j`. -/
def compareScaled (a : Nat) (i : Int) (n : Nat) (j : Int) : Ordering :=
  compare (a * Nat.pow 10 i.toNat * Nat.pow 2 (-j).toNat)
    (n * Nat.pow 2 j.toNat * Nat.pow 10 (-i).toNat)

/-- Whether a decimal lies in the interval of reals that round to a number. The ends belong to it
when the mantissa is even. -/
def Binary.readsBack (x : Binary) (d : Scaled) : Bool :=
  let low := if x.narrowBelow then 4 * x.mantissa - 1 else 4 * x.mantissa - 2
  let fromLow := compareScaled d.digits d.exponent low (x.exponent - 2)
  let fromHigh := compareScaled d.digits d.exponent (4 * x.mantissa + 2) (x.exponent - 2)
  let closed := x.mantissa % 2 == 0
  (fromLow == .gt || (closed && fromLow == .eq)) && (fromHigh == .lt || (closed && fromHigh == .eq))

/-- The largest multiple of `10 ^ scale` that is not above a number, in that unit. -/
def Binary.floorAt (x : Binary) (scale : Int) : Nat :=
  x.mantissa * Nat.pow 2 x.exponent.toNat * Nat.pow 10 (-scale).toNat
    / (Nat.pow 2 (-x.exponent).toNat * Nat.pow 10 scale.toNat)

/-- The decimal in units of `10 ^ scale` that reads back to a number, if there is one. It is one
of the two neighbours of the number in that unit; of both, the nearer, and in the middle the
larger. -/
def Binary.atScale? (x : Binary) (scale : Int) : Option Scaled :=
  let below : Scaled := ⟨x.floorAt scale, scale⟩
  let above : Scaled := ⟨x.floorAt scale + 1, scale⟩
  match x.readsBack below, x.readsBack above with
  | true, true =>
    -- the middle of the two, in half units
    if compareScaled (2 * x.floorAt scale + 1) scale (2 * x.mantissa) x.exponent == .gt then
      some below
    else some above
  | true, false => some below
  | false, true => some above
  | false, false => none

/-- A decimal that is selected at a scale lies in the interval of the number. -/
theorem Binary.atScale?_readsBack {x : Binary} {scale : Int} {d : Scaled}
    (h : x.atScale? scale = some d) : x.readsBack d = true := by
  simp only [Binary.atScale?] at h
  split at h
  · split at h <;> simp_all
  · simp_all
  · simp_all
  · simp at h

/-- The least `k` with `x < 10 ^ k`, for a number that is not zero. The binary logarithm gives an
estimate that is at most two below. -/
def Binary.decimalSize (x : Binary) : Int :=
  let estimate := ((x.mantissa.log2 : Int) + x.exponent) * 30103 / 100000
  let fits (k : Int) : Bool := compareScaled 1 k x.mantissa x.exponent == .gt
  if fits estimate then estimate else if fits (estimate + 1) then estimate + 1 else estimate + 2

/-- A decimal without the zeros at its end; `fuel` bounds their number. -/
def Scaled.strip : Nat → Scaled → Scaled
  | 0, d => d
  | fuel + 1, d =>
    if d.digits % 10 = 0 ∧ d.digits ≠ 0 then strip fuel ⟨d.digits / 10, d.exponent + 1⟩ else d

/-- The number itself as a decimal. -/
def Binary.exactly (x : Binary) : Scaled :=
  ⟨x.mantissa * Nat.pow 2 x.exponent.toNat * Nat.pow 5 (-x.exponent).toNat, min x.exponent 0⟩

/-- The shortest decimal of a number. One digit is tried, then two, and so on; seventeen
suffice. -/
def Binary.shortest (x : Binary) : Scaled :=
  if x.mantissa = 0 then ⟨0, 0⟩
  else
    let size := x.decimalSize
    match (List.range 17).findSome? fun (n : Nat) => x.atScale? (size - (n + 1)) with
    | some d => d.strip 400
    | none => x.exactly

end TreeTemplate.Decimal
