/-!
# Floats by their bits

A value carries a float as its 64 bits. The floats that are no number differ in their sign and in
their payload, and the bits tell them apart; arithmetic and comparison do not, so a float is taken
out of its bits only where it is computed with.

Main statements:

* `Single.toDouble_signBit` — a float of single precision that is no number keeps its sign when it
  is widened.
-/

namespace TreeTemplate.Decimal

/-- A float of double precision. -/
structure Double where
  bits : UInt64
deriving Repr, DecidableEq

/-- The float with the bits of a number. -/
def Double.ofFloat (x : Float) : Double :=
  ⟨x.toBits⟩

/-- The number to compute with. -/
def Double.toFloat (x : Double) : Float :=
  Float.ofBits x.bits

/-- A float of single precision. -/
structure Single where
  bits : UInt32
deriving Repr, DecidableEq

/-- The float of single precision with the bits of a number. -/
def Single.ofFloat32 (x : Float32) : Single :=
  ⟨x.toBits⟩

/-- The number to compute with. -/
def Single.toFloat32 (x : Single) : Float32 :=
  Float32.ofBits x.bits

/-- Whether a float of single precision is no number: all bits of its exponent are set and not all
bits behind them are clear. -/
def Single.isNaN (x : Single) : Bool :=
  x.bits &&& 0x7F800000 = 0x7F800000 && x.bits &&& 0x7FFFFF ≠ 0

/-- The float of double precision for one of single precision. What is no number keeps its sign and
its payload and does not signal. -/
def Single.toDouble (x : Single) : Double :=
  if x.isNaN then
    let sign := (x.bits &&& 0x80000000).toUInt64 <<< 32
    let payload := (x.bits &&& 0x7FFFFF).toUInt64 <<< 29
    ⟨sign ||| 0x7FF8000000000000 ||| payload⟩
  else .ofFloat x.toFloat32.toFloat

/-- A float of single precision that is no number keeps its sign when it is widened. -/
theorem Single.toDouble_signBit {x : Single} (h : x.isNaN = true) :
    x.toDouble.bits >>> 63 = (x.bits >>> 31).toUInt64 := by
  rw [toDouble, if_pos h]
  apply UInt64.toBitVec_inj.1
  ext i hi
  cases i with
  | zero => simp
  | succ i =>
    have hsign : x.bits.toBitVec.getLsbD (31 + (i + 1)) = false :=
      BitVec.getLsbD_of_ge _ _ (by omega)
    have hquiet : (0x7FF8000000000000#64).getLsbD (63 + (i + 1)) = false :=
      BitVec.getLsbD_of_ge _ _ (by omega)
    simp [hsign, hquiet, show ¬ 63 + (i + 1) < 64 by omega]

end TreeTemplate.Decimal
