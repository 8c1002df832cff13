import Mathlib.Tactic.Lemma
import TreeTemplate.Walk.Inject
import TreeTemplate.Walk.Reset

/-!
# Injection and reset step by step

What injection and reset do to an element, as one step after another.

Main statements:

* `Setting.fill_eq`, `Walk.resetDirectives_eq` — the steps make up the walks.
-/

namespace TreeTemplate

namespace Walk

/-- The operator that fills an element, if there is one. -/
def contentOperator (n : NodeId) (ds : Directives) (isItem : Bool) :
    Walk (Option (ContentOperator × String)) :=
  match ds.content? with
  | some content => pure (some content)
  | none =>
    if isItem then do
      let t ← node n
      return some (Setting.itemOperator t, ".")
    else pure none

/-- The scope for the elements below, after the content of an element is filled. -/
def inner (c : Setting) (walk : ElementWalk) (n : NodeId) (scope : Value) :
    Option (ContentOperator × String) → Walk (Option Value)
  | some (operator, operand) => operator.execute c walk n scope operand
  | none => pure (some scope)

/-- Walks the elements below an element. -/
def below (walk : NodeId → Walk Unit) (n : NodeId) : Walk Unit := do
  (← node n).elements.forM fun child => walk child.label

/-- Walks the elements below an element if there is a scope for them. -/
def descend (walk : ElementWalk) (n : NodeId) : Option Value → Walk Unit
  | some inner => below (fun m => walk m inner false) n
  | none => pure ()

/-- Shows an element that a condition may have hidden. -/
def unhide (n : NodeId) (ds : Directives) : Walk Unit :=
  if ds.conditional?.isSome then editNode n (·.setHidden false) else pure ()

/-- Removes what the operator that fills an element filled in. -/
def unfill (n : NodeId) (ds : Directives) : Walk Unit :=
  match ds.content? with
  | some (operator, operand) => inOperator n (.content operator) operand (operator.undo n)
  | none => pure ()

end Walk

/-- An element is filled by choosing its operator, running it, and going on below. -/
lemma Setting.fill_eq (c : Setting) (walk : ElementWalk) (n : NodeId) (ds : Directives)
    (scope : Value) (isItem : Bool) : c.fill walk n ds scope isItem =
      (do
        let content? ← Walk.contentOperator n ds isItem
        let inner? ← Walk.inner c walk n scope content?
        Walk.descend walk n inner?) := by
  unfold Setting.fill Walk.contentOperator
  cases ds.content? with
  | some content =>
    dsimp only
    rw [pure_bind, pure_bind]
    rfl
  | none =>
    cases isItem with
    | false =>
      dsimp only
      rw [if_neg (by simp), if_neg (by simp), pure_bind, pure_bind]
      rfl
    | true =>
      simp only [if_true, bind_assoc, pure_bind]
      rfl

/-- Where a reset does not jump it goes through the steps one after another. -/
lemma Walk.resetDirectives_steps (walk : NodeId → Walk Unit) (n : NodeId) (ds : Directives) :
    resetDirectives walk n ds =
      (do
        match ← jumpTarget ds with
        | some target => walk target
        | none => do
          ds.attributes.forM fun (operator, operand) =>
            inOperator n (.attr operator) operand (operator.undo n operand)
          unhide n ds
          unfill n ds
          below walk n) := by
  unfold resetDirectives unhide unfill
  refine bind_congr fun target? => ?_
  cases target? with
  | some target => rfl
  | none => cases ds.conditional?.isSome <;> cases ds.content? <;> rfl

/-- An element without a jump is reset by undoing its operators, and then what is below it is. -/
lemma Walk.resetDirectives_eq (walk : NodeId → Walk Unit) (n : NodeId) {ds : Directives}
    (h : ds.jump? = none) : resetDirectives walk n ds =
      (do
        ds.attributes.forM fun (operator, operand) =>
          inOperator n (.attr operator) operand (operator.undo n operand)
        unhide n ds
        unfill n ds
        below walk n) := by
  rw [resetDirectives_steps, jumpTarget, h]
  rfl

end TreeTemplate
