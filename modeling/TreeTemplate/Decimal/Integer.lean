/-!
# Integers in a base

Reading a whole number written in a base of at most sixteen, under a limit. The digits are read
from left to right, and the first thing that goes wrong decides what is reported.

Main statements:

* `readNatural_le` — a number that is read is within the limit.
-/

namespace TreeTemplate.Decimal

/-- Why a text is no whole number. -/
inductive NumeralError where
  /-- There is no digit at all. -/
  | empty
  /-- A character is no digit of the base. -/
  | invalidDigit
  /-- The digits read so far exceed the limit. -/
  | tooLarge
deriving Repr, DecidableEq

/-- The value of a digit in a base of at most sixteen. -/
def digit? (base : Nat) (c : Char) : Option Nat :=
  let value? :=
    if '0' ≤ c ∧ c ≤ '9' then some (c.toNat - '0'.toNat)
    else if 'a' ≤ c ∧ c ≤ 'f' then some (c.toNat - 'a'.toNat + 10)
    else if 'A' ≤ c ∧ c ≤ 'F' then some (c.toNat - 'A'.toNat + 10)
    else none
  value?.filter (· < base)

/-- Reads the remaining digits behind those that make `value`. -/
def readDigits (base limit value : Nat) : List Char → Except NumeralError Nat
  | [] => .ok value
  | c :: s =>
    match digit? base c with
    | none => .error .invalidDigit
    | some d =>
      if value * base + d ≤ limit then readDigits base limit (value * base + d) s
      else .error .tooLarge

/-- Reads a whole number without a sign that is at most `limit`. -/
def readNatural (base limit : Nat) (s : List Char) : Except NumeralError Nat :=
  if s.isEmpty then .error .empty else readDigits base limit 0 s

/-- What is read from digits is within the limit. -/
theorem readDigits_le {base limit value n : Nat} {s : List Char} (hv : value ≤ limit)
    (h : readDigits base limit value s = .ok n) : n ≤ limit := by
  induction s generalizing value with
  | nil =>
    simp only [readDigits, Except.ok.injEq] at h
    omega
  | cons c s ih =>
    simp only [readDigits] at h
    split at h
    · simp at h
    · split at h
      · rename_i hle
        exact ih hle h
      · simp at h

/-- A number that is read is within the limit. -/
theorem readNatural_le {base limit n : Nat} {s : List Char}
    (h : readNatural base limit s = .ok n) : n ≤ limit := by
  simp only [readNatural] at h
  split at h
  · simp at h
  · exact readDigits_le (Nat.zero_le _) h

/-- Reads the number of a place in a list: digits alone, at most the largest word of 64 bits. -/
def readIndex? (s : List Char) : Option Nat :=
  (readNatural 10 (UInt64.size - 1) s).toOption

/-- The number of negative integers of 64 bits; those that are not negative are as many. -/
def halfRange : Nat := UInt64.size / 2

/-- Reads a signed integer of 64 bits: digits behind an optional sign. -/
def readInteger? (s : List Char) : Option Int64 :=
  match s with
  | '-' :: s => (readNatural 10 halfRange s).toOption.map fun n => Int64.ofInt (-(n : Int))
  | '+' :: s => (readNatural 10 (halfRange - 1) s).toOption.map fun n => Int64.ofInt n
  | s => (readNatural 10 (halfRange - 1) s).toOption.map fun n => Int64.ofInt n

end TreeTemplate.Decimal
