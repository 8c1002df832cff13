import TreeTemplate.Walk.Basic

/-!
# The policy for faults

A fault of an operator is met by the policy for its class: where the model lacks something the
operator is undone and the walk goes on, a template that is written wrongly stops the walk, and
anything else is reported and gives up the branch.

Main statements:

* `guarded_of_ok` — an operator that succeeds is left alone.
-/

namespace TreeTemplate.Walk

variable {α : Type}

/-- Records a fault that does not stop the walk. -/
def record (f : Fault) : Walk Unit :=
  modify fun s => { s with diagnostics := s.diagnostics ++ [f] }

/-- Reports a fault and records it. -/
def report (f : Fault) : Walk Unit := do
  modify fun s => { s with reported := s.reported ++ [f] }
  record f

/-- An operator of an element as it is now. -/
def site (n : NodeId) (operator : Operator) (operand : String) : Walk Site := do
  return ⟨operator, (← node n).describe, operand⟩

/-- Runs an operator of an element; a fault that it stops for says in which operator it arose. -/
def inOperator (n : NodeId) (operator : Operator) (operand : String) (act : Walk α) : Walk α :=
  tryCatch act fun
    | .missing m => throw (.missing m)
    | .fault f => do throw (.fault (f.inOperator (← site n operator operand)))

/-- Goes on behind a clause for which the model lacks something; any other cause stops the
operator. -/
def recover (n : NodeId) (operator : Operator) (operand : String) (cause : Cause) : Walk Unit := do
  let f : Fault := ⟨cause, some (← site n operator operand)⟩
  match f.faultClass with
  | .content => record f
  | .assertion | .other => throw (.fault f)

/-- Runs an operator of an element under the policy for faults. Where the model lacks something the
operator is undone and its result is `lacking`; where the branch is given up it is `abandoned`. -/
def guarded (n : NodeId) (operator : Operator) (operand : String) (undo : Walk Unit)
    (lacking abandoned : α) (act : Walk α) : Walk α :=
  tryCatch (inOperator n operator operand act) fun
    | .missing m => throw (.missing m)
    | .fault f =>
      match f.faultClass with
      | .content => do
        undo
        record f
        return lacking
      | .assertion => throw (.fault f)
      | .other => do
        report f
        return abandoned

/-- An operator that succeeds is left alone. -/
theorem guarded_of_ok {n : NodeId} {operator : Operator} {operand : String} {undo : Walk Unit}
    {lacking abandoned a : α} {act : Walk α} {s t : State} (h : act s = (.ok a, t)) :
    guarded n operator operand undo lacking abandoned act s = (.ok a, t) := by
  have hin : inOperator n operator operand act s = (.ok a, t) := by
    simp only [inOperator, tryCatch, tryCatchThe, MonadExceptOf.tryCatch, ExceptT.tryCatch,
      ExceptT.mk, bind, StateT.bind, h]
    rfl
  simp only [guarded, tryCatch, tryCatchThe, MonadExceptOf.tryCatch, ExceptT.tryCatch,
    ExceptT.mk, bind, StateT.bind, hin]
  rfl

end TreeTemplate.Walk
