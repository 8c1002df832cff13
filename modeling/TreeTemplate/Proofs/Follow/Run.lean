import TreeTemplate.Proofs.Loops
import TreeTemplate.Walk.Templates
import TreeTemplate.Walk.Policy
import Mathlib.Tactic.Lemma

/-!
# Running walks

What a walk leads to from a state, part by part.

Main statements:

* `run_bind_of_ok`, `run_bind_of_error` — a walk after another one;
* `run_edit`, `run_node` — the document is looked at and changed.
-/

namespace TreeTemplate.Walk

variable {α β : Type} {w : Walk α} {f : α → Walk β} {s s' : State} {a : α} {e : Stop}
  {n : NodeId} {t : Tree NodeId} {d : Document}

/-- Giving an answer leaves the state as it is. -/
lemma run_pure (a : α) (s : State) : (pure a : Walk α) s = (.ok a, s) := rfl

/-- Stopping leaves the state as it is. -/
lemma run_throw (e : Stop) (s : State) : (throw e : Walk α) s = (.error e, s) := rfl

/-- Stopping for a cause leaves the state as it is, and the fault has no site yet. -/
lemma run_refuse (cause : Cause) (s : State) :
    (refuse cause : Walk α) s = (.error (.fault ⟨cause, none⟩), s) := rfl

/-- After a walk that succeeded the next one goes on from where it led. -/
lemma run_bind_of_ok (h : w s = (.ok a, s')) : (w >>= f) s = f a s' := by
  simp only [bind, ExceptT.bind, ExceptT.mk, StateT.bind, h]
  rfl

/-- After a walk that stopped nothing more is done. -/
lemma run_bind_of_error (h : w s = (.error e, s')) : (w >>= f) s = (.error e, s') := by
  simp only [bind, ExceptT.bind, ExceptT.mk, StateT.bind, h]
  rfl

/-- Where two walks one after another succeed, each of them does. -/
lemma exists_of_run_bind {b : β} (h : (w >>= f) s = (.ok b, s')) :
    ∃ a t, w s = (.ok a, t) ∧ f a t = (.ok b, s') := by
  rcases e : w s with ⟨stop | a, t⟩
  · rw [run_bind_of_error e] at h
    cases h
  · exact ⟨a, t, rfl, (run_bind_of_ok e).symm.trans h⟩

/-- A walk that succeeds needs no handler. -/
lemma run_tryCatch_of_ok {handle : Stop → Walk α} (h : w s = (.ok a, s')) :
    (tryCatch w handle) s = (.ok a, s') := by
  simp only [tryCatch, tryCatchThe, MonadExceptOf.tryCatch, ExceptT.tryCatch, ExceptT.mk, bind,
    StateT.bind, h]
  rfl

/-- A walk that stops is handled where it led. -/
lemma run_tryCatch_of_error {handle : Stop → Walk α} (h : w s = (.error e, s')) :
    (tryCatch w handle) s = handle e s' := by
  simp only [tryCatch, tryCatchThe, MonadExceptOf.tryCatch, ExceptT.tryCatch, ExceptT.mk, bind,
    StateT.bind, h]

/-- What is looked at is the state as it is. -/
lemma run_get (f : State → Walk β) (s : State) : (get >>= f) s = f s s := rfl

/-- A change of the state succeeds. -/
lemma run_modify (g : State → State) (s : State) : (modify g : Walk Unit) s = (.ok (), g s) := rfl

/-- A node of the document is found. -/
lemma run_node (h : s.document.find? n = some t) : node n s = (.ok t, s) := by
  simp only [node, run_get, h, run_pure]

/-- The document is changed where the change is defined. -/
lemma run_edit {g : NodeId → Document → Option Document} (h : g n s.document = some d) :
    edit n g s = (.ok (), { s with document := d }) := by
  simp only [edit, run_get, h, run_modify]

/-- A check that is passed gives what it found. -/
@[simp]
lemma check_ok_bind (a : α) (f : α → Walk β) : (check (.ok a) >>= f) = f a :=
  pure_bind a f

/-- A check that is not passed stops for its cause. -/
@[simp]
lemma check_error_bind (cause : Cause) (f : α → Walk β) :
    (check (.error cause) >>= f) = refuse cause :=
  funext fun s => run_bind_of_error (run_refuse cause s)

/-- An operand that can be read gives what it says. -/
@[simp]
lemma checkOperand_ok_bind (a : α) (f : α → Walk β) : (checkOperand (.ok a) >>= f) = f a :=
  pure_bind a f

/-- An operand that cannot be read stops as malformed. -/
@[simp]
lemma checkOperand_error_bind (error : OperandError) (f : α → Walk β) :
    (checkOperand (.error error) >>= f) = refuse (.malformed error) :=
  funext fun s => run_bind_of_error (run_refuse (.malformed error) s)

/-- Nothing is done for nothing. -/
lemma run_forM_nil {β : Type} (f : β → Walk Unit) (s : State) :
    ([] : List β).forM f s = (.ok (), s) := rfl

/-- When the first of several has been done, the others are. -/
lemma run_forM_cons_of_ok {β : Type} {f : β → Walk Unit} {x : β} {xs : List β}
    (h : f x s = (.ok (), s')) : (x :: xs).forM f s = xs.forM f s' :=
  run_bind_of_ok (f := fun _ => xs.forM f) h

/-- When the first of several stops, the others are not done. -/
lemma run_forM_cons_of_error {β : Type} {f : β → Walk Unit} {x : β} {xs : List β}
    (h : f x s = (.error e, s')) : (x :: xs).forM f s = (.error e, s') :=
  run_bind_of_error (f := fun _ => xs.forM f) h

/-- Where a loop succeeds, its first round does. -/
lemma exists_of_run_forM_cons {β : Type} {f : β → Walk Unit} {x : β} {xs : List β}
    (h : (x :: xs).forM f s = (.ok (), s')) :
    ∃ t, f x s = (.ok (), t) ∧ xs.forM f t = (.ok (), s') :=
  let ⟨_, t, hx, hxs⟩ := exists_of_run_bind (f := fun _ => xs.forM f) h
  ⟨t, hx, hxs⟩

/-- When the first ones of several have been done, the others are. -/
lemma run_forM_append_of_ok {β : Type} {f : β → Walk Unit} {xs ys : List β}
    (h : xs.forM f s = (.ok (), s')) : (xs ++ ys).forM f s = ys.forM f s' := by
  induction xs generalizing s with
  | nil =>
    rw [run_forM_nil] at h
    cases h
    rfl
  | cons x xs ih =>
    rcases hx : f x s with ⟨_ | _, t⟩
    · rw [run_forM_cons_of_error hx] at h
      cases h
    · rw [run_forM_cons_of_ok hx] at h
      rw [List.cons_append, run_forM_cons_of_ok hx, ih h]

end TreeTemplate.Walk
