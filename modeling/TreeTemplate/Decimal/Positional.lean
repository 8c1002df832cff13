import TreeTemplate.Decimal.Double
import TreeTemplate.Decimal.Shortest

/-!
# Floats in positional notation

A float is written with the fewest digits that identify it, always positionally: a whole number
has no point, and no exponent is ever used.
-/

namespace TreeTemplate.Decimal

/-- A decimal in positional notation. -/
def Scaled.positional (d : Scaled) : String :=
  let digits := Nat.toDigits 10 d.digits
  if d.digits = 0 then "0"
  else if d.exponent ≥ 0 then String.ofList (digits ++ List.replicate d.exponent.toNat '0')
  else
    let places := (-d.exponent).toNat
    let padded := List.replicate (places + 1 - digits.length) '0' ++ digits
    let (whole, fraction) := padded.splitAt (padded.length - places)
    String.ofList (whole ++ '.' :: fraction)

/-- The text of a float. -/
def floatText (x : Double) : String :=
  if x.toFloat.isNaN then "NaN"
  else
    let sign := if x.bits >>> 63 = 1 then "-" else ""
    let magnitude :=
      if x.toFloat.isInf then "inf" else (Binary.ofBits x.bits).shortest.positional
    sign ++ magnitude

/-- The text of an integer. -/
def integerText (n : Int64) : String :=
  toString n.toInt

end TreeTemplate.Decimal
