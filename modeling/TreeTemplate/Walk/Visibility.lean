import TreeTemplate.Condition
import TreeTemplate.Walk.Policy
import TreeTemplate.Walk.Setting

/-!
# Operators that hide elements

An element is hidden where its condition does not hold, or where it is excluded outright. What the
model lacks for a condition counts as null and is recorded.
-/

namespace TreeTemplate

/-- What becomes of an element. -/
inductive Visibility where
  | shown
  | hidden
  /-- The element is left as it is, and nothing is done below it. -/
  | abandoned
deriving Repr, DecidableEq

namespace ConditionalOperator

/-- What an operator makes of an element in a scope. -/
def run (c : Setting) (n : NodeId) (scope : Value) (operand : String) :
    ConditionalOperator → Walk Visibility
  | condition => do
    let condition ← Walk.checkOperand (Condition.parse operand)
    let (held, lacking) ← Walk.check (condition.holds c.model scope)
    lacking.forM (Walk.recover n (.conditional .condition) operand)
    return if held then .shown else .hidden
  | exclude =>
    let word := String.ofList ((Text.trim operand.toList).map Char.toLower)
    pure (if word = "true" then .hidden else .shown)

/-- Runs an operator under the policy for faults. -/
def execute (c : Setting) (n : NodeId) (scope : Value) (operand : String)
    (operator : ConditionalOperator) : Walk Visibility :=
  Walk.guarded n (.conditional operator) operand (pure ()) .hidden .abandoned
    (operator.run c n scope operand)

end ConditionalOperator

end TreeTemplate
