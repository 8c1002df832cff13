import TreeTemplate.Decimal.Double
import TreeTemplate.Decimal.Integer

/-!
# Reading floats

A float is an optional sign and a decimal, or one of the words for the infinities and for the
number that is none. A decimal has digits before or after its point, or both, and an optional
exponent; the number is the float nearest to it.
-/

namespace TreeTemplate.Decimal

/-- A number as it is written: `digits * 10 ^ exponent`, or one of the words. -/
inductive Numeral where
  | decimal (negative : Bool) (digits : Nat) (exponent : Int)
  | infinity (negative : Bool)
  | nan (negative : Bool)
deriving Repr, DecidableEq

/-- The value of a run of decimal digits. -/
def decimalValue (digits : List Char) : Nat :=
  digits.foldl (fun value c => value * 10 + (c.toNat - '0'.toNat)) 0

/-- The value of an exponent, behind its mark; there must be a digit. -/
def readExponent? (s : List Char) : Option Int :=
  let (negative, digits) :=
    match s with
    | '-' :: s => (true, s)
    | '+' :: s => (false, s)
    | s => (false, s)
  if digits.isEmpty || !digits.all Char.isDigit then none
  else
    let size : Int := decimalValue digits
    some (if negative then -size else size)

/-- The digits of a decimal and its exponent, without a sign. -/
def readDecimal? (s : List Char) : Option (Nat × Int) := do
  let whole := s.takeWhile Char.isDigit
  let (fraction, rest) :=
    match s.dropWhile Char.isDigit with
    | '.' :: s => (s.takeWhile Char.isDigit, s.dropWhile Char.isDigit)
    | s => ([], s)
  if whole.isEmpty && fraction.isEmpty then none
  let exponent ←
    match rest with
    | [] => some 0
    | 'e' :: s | 'E' :: s => readExponent? s
    | _ => none
  some (decimalValue (whole ++ fraction), exponent - fraction.length)

/-- A numeral without a sign. -/
def readMagnitude? (negative : Bool) (s : List Char) : Option Numeral :=
  match String.ofList (s.map Char.toLower) with
  | "inf" | "infinity" => some (.infinity negative)
  | "nan" => some (.nan negative)
  | _ => (readDecimal? s).map fun (digits, exponent) => .decimal negative digits exponent

/-- Reads a numeral. -/
def Numeral.read? (s : List Char) : Option Numeral :=
  match s with
  | '-' :: s => readMagnitude? true s
  | '+' :: s => readMagnitude? false s
  | s => readMagnitude? false s

/-- The number of digits of a natural number that is not zero, less one or two. -/
def sizeBelow (n : Nat) : Nat :=
  n.log2 * 30103 / 100000

/-- The float nearest to `digits * 10 ^ exponent`. A decimal far outside the range of floats is
zero or infinite and is not computed. -/
def nearestFloat (digits : Nat) (exponent : Int) : Float :=
  if digits = 0 then 0.0
  else if (sizeBelow digits : Int) + exponent > 400 then Float.ofBits 0x7FF0000000000000
  else if (sizeBelow digits : Int) + exponent < -400 then 0.0
  else Float.ofScientific digits (exponent < 0) exponent.natAbs

/-- The single precision float nearest to `digits * 10 ^ exponent`. -/
def nearestSingle (digits : Nat) (exponent : Int) : Float32 :=
  if digits = 0 then 0.0
  else if (sizeBelow digits : Int) + exponent > 100 then Float32.ofBits 0x7F800000
  else if (sizeBelow digits : Int) + exponent < -100 then 0.0
  else Float32.ofScientific digits (exponent < 0) exponent.natAbs

/-- The float that a numeral stands for. -/
def Numeral.toFloat : Numeral → Float
  | .decimal negative digits exponent =>
    if negative then -nearestFloat digits exponent else nearestFloat digits exponent
  | .infinity negative => Float.ofBits (if negative then 0xFFF0000000000000 else 0x7FF0000000000000)
  | .nan _ => Float.ofBits 0x7FF8000000000000

/-- The bits of the float that a numeral stands for. What is no number can have a sign. -/
def Numeral.toDouble : Numeral → Double
  | .nan negative => ⟨if negative then 0xFFF8000000000000 else 0x7FF8000000000000⟩
  | numeral => .ofFloat numeral.toFloat

/-- The bits of the single precision float that a numeral stands for. -/
def Numeral.toSingle : Numeral → Single
  | .decimal negative digits exponent =>
    .ofFloat32 (if negative then -nearestSingle digits exponent else nearestSingle digits exponent)
  | .infinity negative => ⟨if negative then 0xFF800000 else 0x7F800000⟩
  | .nan negative => ⟨if negative then 0xFFC00000 else 0x7FC00000⟩

/-- Reads a float to compute with. -/
def readFloat? (s : List Char) : Option Float :=
  (Numeral.read? s).map Numeral.toFloat

/-- Reads the bits of a float. -/
def readDouble? (s : List Char) : Option Double :=
  (Numeral.read? s).map Numeral.toDouble

/-- Reads the bits of a single precision float. -/
def readSingle? (s : List Char) : Option Single :=
  (Numeral.read? s).map Numeral.toSingle

/-- The float nearest to an integer. -/
def floatOfInteger (n : Int64) : Float :=
  if n.toInt < 0 then -nearestFloat n.toInt.natAbs 0 else nearestFloat n.toInt.natAbs 0

end TreeTemplate.Decimal
