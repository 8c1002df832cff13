import TreeTemplate.Proofs.Follow.Run
import TreeTemplate.Proofs.Forest.Restyles
import TreeTemplate.Walk.Directives

/-!
# Kinds of walks and courses

A kind of walks is closed when whatever is made of walks of the kind is of the kind: one walk after
another, and a walk under the policy for faults. What is shown for closed kinds is then shown for
all of them at once. Some kinds are closed at one element only: they hold the walks that look at
this element, where others may stop because a node is gone.

Most kinds come from courses. A course is a relation between the state in which a walk begins and
the state in which it ends: what it keeps, and what it adds. A walk runs a course whether it
succeeds or stops.

Main statements:

* `BindClosed.forM`, `ClosedAt.guarded`, `Closed.element` — walks that are made of walks;
* `Course.closed` — the walks that run a course are a closed kind.
-/

namespace TreeTemplate.Walk

variable {α β γ : Type}

/-! ## Closed kinds -/

/-- A kind of walks that holds those that only look at the state or stop for a fault, and those that
are made of others. -/
structure BindClosed (Q : (α : Type) → Walk α → Prop) : Prop where
  pure : ∀ {α : Type} (a : α), Q α (Pure.pure a)
  refuse : ∀ {α : Type} (cause : Cause), Q α (Walk.refuse cause)
  bind : ∀ {α β : Type} {w : Walk α} {f : α → Walk β}, Q α w → (∀ a, Q β (f a)) → Q β (w >>= f)
  get : Q State MonadState.get

/-- A kind of walks at an element, which holds those that look at the element and those that meet
the faults of its operators under the policy. -/
structure ClosedAt (Q : (α : Type) → Walk α → Prop) (n : NodeId) : Prop extends BindClosed Q where
  node : Q (Tree NodeId) (Walk.node n)
  recover : ∀ {operator operand} (cause : Cause), Q Unit (Walk.recover n operator operand cause)
  inOperator : ∀ {α : Type} {act : Walk α} {operator operand}, Q α act →
    Q α (Walk.inOperator n operator operand act)
  guarded : ∀ {α : Type} {undo : Walk Unit} {lacking abandoned : α} {act : Walk α}
    {operator operand}, Q Unit undo → Q α act →
    Q α (Walk.guarded n operator operand undo lacking abandoned act)

/-- A kind of walks that holds those that only look at the state or stop, those that are made of
others, and those that meet faults under the policy. -/
structure Closed (Q : (α : Type) → Walk α → Prop) : Prop extends BindClosed Q where
  throw : ∀ {α : Type} (stop : Stop), Q α (MonadExcept.throw stop)
  recover : ∀ {n operator operand} (cause : Cause), Q Unit (Walk.recover n operator operand cause)
  inOperator : ∀ {α : Type} {act : Walk α} {n operator operand}, Q α act →
    Q α (Walk.inOperator n operator operand act)
  guarded : ∀ {α : Type} {undo : Walk Unit} {lacking abandoned : α} {act : Walk α}
    {n operator operand}, Q Unit undo → Q α act →
    Q α (Walk.guarded n operator operand undo lacking abandoned act)

namespace BindClosed

variable {Q : (α : Type) → Walk α → Prop} (hQ : BindClosed Q)
include hQ

/-- Walks of a kind one after another are of the kind. -/
lemma forM {xs : List γ} {f : γ → Walk Unit} (h : ∀ x ∈ xs, Q Unit (f x)) :
    Q Unit (xs.forM f) :=
  forM_of_each (hQ.pure ()) (fun hw hv => hQ.bind hw fun _ => hv) h

/-- Walks of a kind one after another, whose answers are kept, are of the kind. -/
lemma mapM {xs : List γ} {f : γ → Walk β} (h : ∀ x ∈ xs, Q β (f x)) :
    Q (List β) (xs.mapM f) := by
  induction xs with
  | nil => exact hQ.pure []
  | cons x xs ih =>
    rw [List.mapM_cons]
    exact hQ.bind (h x List.mem_cons_self) fun _ =>
      hQ.bind (ih fun y hy => h y (List.mem_cons_of_mem _ hy)) fun _ => hQ.pure _

/-- A check is of the kind. -/
lemma check (e : Except Cause α) : Q α (Walk.check e) := by
  cases e with
  | ok a => exact hQ.pure a
  | error cause => exact hQ.refuse cause

/-- Reading an operand is of the kind. -/
lemma checkOperand (e : Except OperandError α) : Q α (Walk.checkOperand e) := by
  cases e with
  | ok a => exact hQ.pure a
  | error error => exact hQ.refuse _

/-- Looking for the target of a jump is of the kind. -/
lemma jumpTarget (ds : Directives) : Q (Option NodeId) (Walk.jumpTarget ds) :=
  hQ.bind hQ.get fun _ => hQ.pure _

end BindClosed

namespace ClosedAt

variable {Q : (α : Type) → Walk α → Prop} {n : NodeId} (hQ : ClosedAt Q n)
include hQ

/-- Stopping at the limit of the depth is of the kind. -/
lemma refuseDepth : Q α (Walk.refuseDepth n) :=
  hQ.bind hQ.get fun _ => hQ.bind hQ.node fun _ => hQ.refuse _

/-- Reading the directives of an element is of the kind. -/
lemma directives (dialect : Dialect) : Q Directives (Walk.directives dialect n) :=
  hQ.bind hQ.node fun _ => hQ.check _

end ClosedAt

namespace Closed

variable {Q : (α : Type) → Walk α → Prop} (hQ : Closed Q)
include hQ

/-- Looking for a node is of the kind. -/
lemma node (n : NodeId) : Q (Tree NodeId) (Walk.node n) := by
  refine hQ.bind hQ.get fun s => ?_
  cases s.document.find? n with
  | some t => exact hQ.pure t
  | none => exact hQ.throw _

/-- What is closed is so at every element. -/
lemma element (n : NodeId) : ClosedAt Q n where
  toBindClosed := hQ.toBindClosed
  node := hQ.node n
  recover := hQ.recover
  inOperator := hQ.inOperator
  guarded := hQ.guarded

end Closed

/-! ## Courses -/

variable {R : State → State → Prop} {s s' : State}

/-- A walk leads from each state to one that is related to it, whether it succeeds or stops. -/
def Runs (R : State → State → Prop) (α : Type) (w : Walk α) : Prop :=
  ∀ s, R s (w s).2

/-- A relation between states for walks to run: nothing has to be done, what is done can be done one
after another, and faults of operators may be recorded and reported. -/
structure Course (R : State → State → Prop) : Prop where
  refl : ∀ s, R s s
  trans : ∀ {s t u}, R s t → R t u → R s u
  record : ∀ f : Fault, f.site?.isSome → f.faultClass = .content → Runs R Unit (Walk.record f)
  report : ∀ f : Fault, f.site?.isSome → f.faultClass = .other → Runs R Unit (Walk.report f)

/-- Where an operator stops, it stops by itself in the same state, and a fault that it stops for
names the operator and has the same cause. -/
lemma inOperator_error {n : NodeId} {operator : Operator} {operand : String} {act : Walk α}
    {stop : Stop} (h : inOperator n operator operand act s = (.error stop, s')) :
    ∃ found, act s = (.error found, s') ∧ ∀ f, stop = .fault f →
      f.site?.isSome ∧ ∃ g, found = .fault g ∧ f.cause = g.cause := by
  rcases e : act s with ⟨found | a, t⟩
  · rw [inOperator, run_tryCatch_of_error e] at h
    cases found with
    | missing m =>
      cases h
      exact ⟨_, rfl, fun f hf => by cases hf⟩
    | fault g =>
      dsimp only at h
      cases hfind : t.document.find? n with
      | none =>
        have hsite : site n operator operand t = (.error (.missing n), t) :=
          run_bind_of_error (by simp only [node, run_get, hfind, run_throw])
        rw [run_bind_of_error hsite] at h
        cases h
        exact ⟨_, rfl, fun f hf => by cases hf⟩
      | some u =>
        have hsite : site n operator operand t = (.ok ⟨operator, u.describe, operand⟩, t) :=
          run_bind_of_ok (run_node hfind)
        rw [run_bind_of_ok hsite] at h
        cases h
        refine ⟨_, rfl, fun f hf => ?_⟩
        cases hf
        refine ⟨?_, g, rfl, rfl⟩
        unfold Fault.inOperator
        cases g.site? <;> rfl
  · rw [inOperator, run_tryCatch_of_ok e] at h
    cases h

/-- Where an operator succeeds, it does so by itself. -/
lemma inOperator_ok {n : NodeId} {operator : Operator} {operand : String} {act : Walk α} {a : α}
    (h : inOperator n operator operand act s = (.ok a, s')) : act s = (.ok a, s') := by
  rcases e : act s with ⟨stop | b, t⟩
  · rw [inOperator, run_tryCatch_of_error e] at h
    cases stop with
    | missing m => cases h
    | fault g =>
      dsimp only at h
      rcases hsite : site n operator operand t with ⟨stop | site, t'⟩
      · rw [run_bind_of_error hsite] at h
        cases h
      · rw [run_bind_of_ok hsite] at h
        cases h
  · rw [inOperator, run_tryCatch_of_ok e] at h
    exact h

namespace Runs

/-- A walk that succeeds leads to a related state. -/
lemma of_ok {w : Walk α} {a : α} (h : Runs R α w) (e : w s = (.ok a, s')) : R s s' :=
  (e ▸ h s :)

/-- A walk that stops leads to a related state. -/
lemma of_error {w : Walk α} {stop : Stop} (h : Runs R α w) (e : w s = (.error stop, s')) :
    R s s' :=
  (e ▸ h s :)

variable (hR : Course R)
include hR

/-- Giving an answer leads to a related state. -/
lemma pure (a : α) : Runs R α (Pure.pure a) := hR.refl

/-- Stopping leads to a related state. -/
lemma throw (stop : Stop) : Runs R α (MonadExcept.throw stop) := hR.refl

/-- Looking at the state leads to a related state. -/
lemma get : Runs R State MonadState.get := hR.refl

/-- What follows a walk has to run only from where the walk leads. -/
lemma bind_of {w : Walk α} {f : α → Walk β} (hw : Runs R α w)
    (hf : ∀ s a s', w s = (.ok a, s') → R s' (f a s').2) : Runs R β (w >>= f) := by
  intro s
  rcases e : w s with ⟨stop | a, s'⟩
  · rw [run_bind_of_error e]
    exact hw.of_error e
  · rw [run_bind_of_ok e]
    exact hR.trans (hw.of_ok e) (hf s a s' e)

/-- Two walks one after another lead to a related state if each of them does. -/
lemma bind {w : Walk α} {f : α → Walk β} (hw : Runs R α w) (hf : ∀ a, Runs R β (f a)) :
    Runs R β (w >>= f) :=
  bind_of hR hw fun _ a s' _ => hf a s'

/-- What is done about a stop has to run only from where the walk stopped. -/
lemma tryCatch_of {w : Walk α} {handle : Stop → Walk α} (hw : Runs R α w)
    (hh : ∀ s stop s', w s = (.error stop, s') → R s' (handle stop s').2) :
    Runs R α (MonadExcept.tryCatch w handle) := by
  intro s
  rcases e : w s with ⟨stop | a, s'⟩
  · rw [run_tryCatch_of_error e]
    exact hR.trans (hw.of_error e) (hh s stop s' e)
  · rw [run_tryCatch_of_ok e]
    exact hw.of_ok e

/-- Looking for a node leads to a related state. -/
lemma node (n : NodeId) : Runs R (Tree NodeId) (Walk.node n) := by
  refine bind hR (get hR) fun s => ?_
  cases s.document.find? n with
  | some t => exact pure hR t
  | none => exact throw hR _

variable {n : NodeId} {operator : Operator} {operand : String}

/-- Describing an element for a fault leads to a related state. -/
lemma site : Runs R Site (Walk.site n operator operand) :=
  bind hR (node hR n) fun _ => pure hR _

/-- A clause for which the model lacks something is recorded with its operator. -/
lemma recover (cause : Cause) : Runs R Unit (Walk.recover n operator operand cause) := by
  refine bind hR (site hR) fun site => ?_
  dsimp only
  split
  · rename_i hclass
    exact hR.record _ rfl hclass
  · exact throw hR _
  · exact throw hR _

/-- A walk in an operator leads to a related state if it does so by itself. -/
lemma inOperator {act : Walk α} (h : Runs R α act) :
    Runs R α (Walk.inOperator n operator operand act) := by
  refine tryCatch_of hR h fun _ stop s' _ => ?_
  cases stop with
  | missing m => exact hR.refl s'
  | fault f => exact bind hR (site hR) (fun _ => throw hR _) s'

/-- What is recorded under the policy for faults names its operator. -/
lemma guarded {undo : Walk Unit} {lacking abandoned : α} {act : Walk α} (hundo : Runs R Unit undo)
    (h : Runs R α act) :
    Runs R α (Walk.guarded n operator operand undo lacking abandoned act) := by
  refine tryCatch_of hR (inOperator hR h) fun s stop s' e => ?_
  cases stop with
  | missing m => exact hR.refl s'
  | fault f =>
    obtain ⟨_, -, hfault⟩ := inOperator_error e
    have hsite := (hfault f rfl).1
    dsimp only
    cases hclass : f.faultClass with
    | content =>
      exact bind hR hundo (fun _ => bind hR (hR.record f hsite hclass) fun _ => pure hR _) s'
    | assertion => exact hR.refl s'
    | other => exact bind hR (hR.report f hsite hclass) (fun _ => pure hR _) s'

end Runs

/-- The walks that run a course are a closed kind. -/
lemma Course.closed (hR : Course R) : Closed (Runs R) where
  pure := .pure hR
  refuse _ := .throw hR _
  throw := .throw hR
  bind := .bind hR
  get := .get hR
  recover := .recover hR
  inOperator := .inOperator hR
  guarded := .guarded hR

/-- Where a property holds before, it holds afterwards. -/
def Keeping (p : State → Prop) (s s' : State) : Prop :=
  p s → p s'

/-- A property of the document and the stash. -/
def OfForest (p : State → Prop) : Prop :=
  ∀ s s' : State, s'.document = s.document → s'.stash = s.stash → p s → p s'

/-- Keeping a property of the document and the stash is a course. -/
lemma course_keeping {p : State → Prop} (h : OfForest p) : Course (Keeping p) where
  refl _ := id
  trans h h' := h' ∘ h
  record _ _ _ _ := h _ _ rfl rfl
  report _ _ _ _ := h _ _ rfl rfl

end TreeTemplate.Walk
