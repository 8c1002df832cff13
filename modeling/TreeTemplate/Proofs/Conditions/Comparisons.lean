import TreeTemplate.Proofs.Conditions.Paths
import TreeTemplate.Proofs.Decimal.Written

/-!
# Comparisons of integers

A condition compares numbers as floats. An integer that the model holds and an integer that the
condition spells are therefore compared after both are rounded to 53 significant bits: an integer
that is found to be smaller is smaller, but of large integers the larger one may go unnoticed.

Main statements:

* `Condition.parse_test` — a path with a test behind it is a condition;
* `condition_compares` — what the comparison of a path with an integer evaluates to.
-/

namespace TreeTemplate

open Decimal (rounded Significant Writes Denotes)

variable {model scope value : Value} {path : String}

/-- Only a path that can be read leads anywhere. -/
lemma Path.parse_of_read (h : Path.read model scope path = .ok value) :
    ∃ names, Path.parse path = .ok names := by
  unfold Path.read at h
  cases hparse : Path.parse path with
  | error error =>
    rw [hparse] at h
    cases h
  | ok names => exact ⟨names, rfl⟩

namespace Condition

/-- A path with a test behind it is a condition. -/
lemma parse_test {tail : String} {test : Test} (hne : path.toList ≠ [])
    (hpath : ∀ c ∈ path.toList, Statement.isPathChar c = true) (htest : test.Spells tail.toList)
    (hsep : ';' ∉ tail.toList) : parse (path ++ tail) = .ok [⟨false, path, test⟩] := by
  have hwhole : ';' ∉ (path ++ tail).toList := by
    rw [String.toList_append, List.mem_append]
    rintro (hmem | hmem)
    · exact absurd (hpath ';' hmem) (by decide)
    · exact hsep hmem
  have hspells : Statement.Spells (path ++ tail).toList ⟨false, path, test⟩ := by
    have hplain := Statement.Spells.plain path.toList tail.toList test hne hpath htest
    rwa [String.ofList_toList, ← String.toList_append] at hplain
  rw [parse, parseAt_single hwhole, Statement.parse_eq_ok.2 hspells]
  rfl

/-- The test of a single statement decides when its path leads to a value. -/
lemma holds_test (h : Path.read model scope path = .ok value) (test : Test) :
    holds model scope [⟨false, path, test⟩] = .ok (test.passes value, []) := by
  have hstatement : Statement.holds model scope ⟨false, path, test⟩ =
      .ok (test.passes value, []) := by
    simp only [Statement.holds, h, Bool.bne_false]
  rw [holds, hstatement]
  cases test.passes value <;> rfl

end Condition

/-- An integer and a literal are compared as the rounded integers. -/
lemma Test.passes_integer {bound : Float} {k : Int} (hbound : Denotes bound (rounded k)) (n : Int64)
    (literal : String) :
    Test.passes (.integer n) (.below literal bound) = decide (rounded n.toInt < rounded k) ∧
      Test.passes (.integer n) (.above literal bound) = decide (rounded k < rounded n.toInt) := by
  have hn := Decimal.denotes_floatOfInteger n
  simp only [Test.passes, Value.number?, Option.any_some, hn.lt_iff hbound, hbound.lt_iff hn,
    and_self]

/-- What is smaller when rounded is smaller. -/
lemma lt_of_rounded_lt {n k : Int64} (h : rounded n.toInt < rounded k.toInt) : n < k := by
  rw [Int64.lt_iff_toInt_lt]
  by_contra hge
  have hmono := Decimal.rounded_mono (Int.not_lt.1 hge)
  omega

/-- A path and an integer in decimal, with a sign between them that compares: the condition compares
the rounded integers, and nothing is lacking. An integer is rounded to one of 53 significant bits,
and none of these is nearer. So an integer that is said to be smaller is smaller, and integers of up
to 53 bits are compared exactly. -/
theorem condition_compares {model scope : Value} {path literal : String} {n k : Int64}
    (hread : Path.read model scope path = .ok (.integer n))
    (hpath : ∀ c ∈ path.toList, Statement.isPathChar c = true)
    (hliteral : Writes k.toInt literal.toList) :
    ∃ below above,
      Condition.parse (path ++ "<" ++ literal) = .ok below ∧
      Condition.parse (path ++ ">" ++ literal) = .ok above ∧
      Condition.holds model scope below =
        .ok (decide (rounded n.toInt < rounded k.toInt), []) ∧
      Condition.holds model scope above =
        .ok (decide (rounded k.toInt < rounded n.toInt), []) ∧
      (∀ x : Int, Significant (rounded x) ∧
        ∀ m, Significant m → (x - rounded x).natAbs ≤ (x - m).natAbs) ∧
      (rounded n.toInt < rounded k.toInt → n < k) ∧
      (rounded k.toInt < rounded n.toInt → k < n) ∧
      (n.toInt.natAbs ≤ 2 ^ 53 → k.toInt.natAbs ≤ 2 ^ 53 →
        (rounded n.toInt < rounded k.toInt ↔ n < k) ∧
        (rounded k.toInt < rounded n.toInt ↔ k < n)) := by
  obtain ⟨names, hnames⟩ := Path.parse_of_read hread
  have hlow := k.le_toInt
  have hhigh := k.toInt_lt
  obtain ⟨bound, hbound, hdenotes⟩ := Decimal.readFloat?_of_writes hliteral (by omega)
  obtain ⟨hbelow, habove⟩ := Test.passes_integer hdenotes n literal
  -- a literal of digits and signs cannot end the statement that it stands in
  have hparse : ∀ (sign : Char) (test : Test), sign ≠ ';' →
      test.Spells (sign :: literal.toList) →
      Condition.parse (path ++ sign.toString ++ literal) = .ok [⟨false, path, test⟩] := by
    intro sign test hsign hspells
    have hsep : ';' ∉ literal.toList := hliteral.notMem (by decide) (by decide) (by decide)
    have htail : (sign.toString ++ literal).toList = sign :: literal.toList := by simp
    rw [String.append_assoc]
    refine Condition.parse_test (Path.chars_ne_nil hnames) hpath (htail ▸ hspells) ?_
    simp [hsep, hsign.symm]
  have hspelledBelow := Test.Spells.below literal.toList bound hbound
  have hspelledAbove := Test.Spells.above literal.toList bound hbound
  rw [String.ofList_toList] at hspelledBelow hspelledAbove
  refine ⟨_, _, hparse '<' _ (by decide) hspelledBelow, hparse '>' _ (by decide) hspelledAbove,
    ?_, ?_,
    fun x => ⟨Decimal.significant_rounded x, fun m hm => Decimal.natAbs_sub_rounded_le hm x⟩,
    lt_of_rounded_lt, lt_of_rounded_lt, fun hn hk => ?_⟩
  · rw [Condition.holds_test hread, hbelow]
  · rw [Condition.holds_test hread, habove]
  · rw [Decimal.rounded_of_le hn, Decimal.rounded_of_le hk, Int64.lt_iff_toInt_lt,
      Int64.lt_iff_toInt_lt]
    exact ⟨Iff.rfl, Iff.rfl⟩

/-- An integer of 54 bits is half-way between two of 53 and goes to the even one, which is still
below the next integer. -/
theorem condition_compares_half_way :
    ∃ below,
      Condition.parse "id<9007199254740994" = .ok below ∧
      Condition.holds .null (.map [("id", .integer 9007199254740993)]) below = .ok (true, []) := by
  have hread : Path.read .null (.map [("id", .integer 9007199254740993)]) "id" =
      .ok (.integer 9007199254740993) := rfl
  have hpath : ∀ c ∈ "id".toList, Statement.isPathChar c = true := List.all_eq_true.1 rfl
  obtain ⟨below, _, hparse, -, hholds, -⟩ :=
    condition_compares hread hpath (Decimal.writes_integerText 9007199254740994)
  have hless : rounded (9007199254740993 : Int64).toInt <
      rounded (9007199254740994 : Int64).toInt := by
    decide
  rw [decide_eq_true hless] at hholds
  exact ⟨below, hparse, hholds⟩

/-- What is not compared: the larger of two integers is not found to be larger when both are rounded
to the same, and a path with a middle dot names an integer and is refused in a condition. -/
theorem larger_unnoticed :
    (∃ above,
      Path.read .null (.map [("id", .integer 9007199254740993)]) "id" =
        .ok (.integer 9007199254740993) ∧
      (9007199254740992 : Int64) < 9007199254740993 ∧
      Condition.parse "id>9007199254740992" = .ok above ∧
      Condition.holds .null (.map [("id", .integer 9007199254740993)]) above = .ok (false, [])) ∧
    Path.read .null (.map [("l·l", .integer 1)]) "l·l" = .ok (.integer 1) ∧
      Condition.parse "l·l<2" = .error ⟨.expectedComparison, "l·l<2", ⟨1, 3⟩⟩ :=
  ⟨⟨_, rfl, by decide, rfl, rfl⟩, rfl, rfl⟩

end TreeTemplate
