import TreeTemplate.Value

/-!
# Formatters

A formatter displays values of a model and reads displayed text back. Both can fail, and say why in
words of their own.

Main statements:

* `test_eq_true_iff` — a text passes the test of a formatter where the formatter reads it.
-/

namespace TreeTemplate

/-- What displays values and reads them back. -/
structure Formatter where
  format : Value → Except String String
  parse : String → Except String Value

namespace Formatter

/-- Whether a text can be read back. -/
def test (f : Formatter) (text : String) : Bool :=
  match f.parse text with
  | .ok _ => true
  | .error _ => false

/-- A text passes the test of a formatter where the formatter reads it. -/
theorem test_eq_true_iff (f : Formatter) (text : String) :
    f.test text = true ↔ ∃ value, f.parse text = .ok value := by
  cases h : f.parse text <;> simp [test, h]

end Formatter

end TreeTemplate
