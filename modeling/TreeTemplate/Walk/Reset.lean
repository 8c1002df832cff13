import TreeTemplate.Walk.Attributes
import TreeTemplate.Walk.Content
import TreeTemplate.Walk.Directives

/-!
# Resetting

Bringing an element and everything below it back to what its directives declare: what operators set
and filled in is removed, and what a condition hid is shown. A jump goes on with another element in
place of this one.
-/

namespace TreeTemplate.Walk

/-- Brings an element whose directives are known back. -/
def resetDirectives (walk : NodeId → Walk Unit) (n : NodeId) (ds : Directives) : Walk Unit := do
  match ← jumpTarget ds with
  | some target => walk target
  | none => do
    ds.attributes.forM fun (operator, operand) =>
      inOperator n (.attr operator) operand (operator.undo n operand)
    if ds.conditional?.isSome then editNode n (·.setHidden false)
    match ds.content? with
    | some (operator, operand) =>
      inOperator n (.content operator) operand (operator.undo n)
    | none => pure ()
    (← node n).elements.forM fun child => walk child.label

/-- Brings an element and everything below it back. -/
def reset (dialect : Dialect) : Nat → NodeId → Walk Unit
  | 0, n => refuseDepth n
  | room + 1, n => deeper do
    let ds ← directives dialect n
    resetDirectives (reset dialect room) n ds

end TreeTemplate.Walk
