import TreeTemplate.Proofs.Loops
import TreeTemplate.Proofs.Stocked.Element
import TreeTemplate.Walk.Policy
import TreeTemplate.Walk.Setting

/-!
# Local actions

What a walk does, seen from the part of a tree that it does it to. A local action is given the part
as it is and yields the part as it becomes, without identities, stash or positions of nodes; the
faults that it notes on the way are those that a walk records, in order.

Main statements:

* `guarded_of_ok`, `guarded_of_lacking`, `guarded_of_assertion`, `guarded_of_other` — what becomes
  of an operator under the policy for faults;
* `Keeps.bind`, `Keeps.forM`, `Keeps.guarded` — what an action leaves as it is.
-/

namespace TreeTemplate

/-- What a local action leads to. -/
structure Yield (σ α : Type) where
  result : Except Fault α
  state : σ
  /-- The faults that did not stop the action, in order. -/
  notes : List Fault

/-- An action on a part of a tree. Where it stops, what it did before stays done. -/
def Local (σ α : Type) := σ → Yield σ α

namespace Local

variable {σ α β : Type}

/-- An action goes on from the part that the one before it left, and notes its faults behind. -/
instance : Monad (Local σ) where
  pure a := fun p => ⟨.ok a, p, []⟩
  bind x f := fun p =>
    match (x p).result with
    | .ok a =>
      ⟨(f a (x p).state).result, (f a (x p).state).state, (x p).notes ++ (f a (x p).state).notes⟩
    | .error e => ⟨.error e, (x p).state, (x p).notes⟩

/-- The part as it is. -/
def look : Local σ σ := fun p => ⟨.ok p, p, []⟩

/-- Changes the part. -/
def change (f : σ → σ) : Local σ Unit := fun p => ⟨.ok (), f p, []⟩

/-- Notes a fault that does not stop the action. -/
def note (f : Fault) : Local σ Unit := fun p => ⟨.ok (), p, [f]⟩

/-- Stops for a fault. -/
def fail (f : Fault) : Local σ α := fun p => ⟨.error f, p, []⟩

/-- Stops for a cause. -/
def refuse (cause : Cause) : Local σ α :=
  fail ⟨cause, none⟩

/-- What was found, or the cause why it was not. -/
def check : Except Cause α → Local σ α
  | .ok a => pure a
  | .error cause => refuse cause

/-- What was read from an operand, or the place where it is wrong. -/
def checkOperand : Except OperandError α → Local σ α
  | .ok a => pure a
  | .error error => refuse (.malformed error)

/-! ## The policy for faults -/

/-- Runs an operator of an element; a fault that it stops for says in which operator it arose. -/
def inOperator (operator : Operator) (operand : String) (act : Local (Element Unit) α) :
    Local (Element Unit) α := fun P =>
  match (act P).result with
  | .ok a => ⟨.ok a, (act P).state, (act P).notes⟩
  | .error f =>
    ⟨.error (f.inOperator ⟨operator, (act P).state.shell.describe, operand⟩), (act P).state,
      (act P).notes⟩

/-- Goes on behind a clause for which the model lacks something; any other cause stops the
operator. -/
def recover (operator : Operator) (operand : String) (cause : Cause) :
    Local (Element Unit) Unit := fun P =>
  let f : Fault := ⟨cause, some ⟨operator, P.shell.describe, operand⟩⟩
  match f.faultClass with
  | .content => note f P
  | .assertion | .other => fail f P

/-- What is done about a fault that an operator stops for. -/
def settle (undo : Local (Element Unit) Unit) (lacking abandoned : α) (f : Fault) :
    Local (Element Unit) α :=
  match f.faultClass with
  | .content => do
    undo
    note f
    return lacking
  | .assertion => fail f
  | .other => do
    note f
    return abandoned

/-- Goes on with another action where an action stops. -/
def orElse (act : Local σ α) (handle : Fault → Local σ α) : Local σ α := fun p =>
  match (act p).result with
  | .ok a => ⟨.ok a, (act p).state, (act p).notes⟩
  | .error f =>
    ⟨(handle f (act p).state).result, (handle f (act p).state).state,
      (act p).notes ++ (handle f (act p).state).notes⟩

/-- Runs an operator of an element under the policy for faults. -/
def guarded (operator : Operator) (operand : String) (undo : Local (Element Unit) Unit)
    (lacking abandoned : α) (act : Local (Element Unit) α) : Local (Element Unit) α :=
  orElse (inOperator operator operand act) (settle undo lacking abandoned)

/-! ## Running actions -/

/-- Giving an answer leaves the part as it is and notes nothing. -/
@[simp]
lemma pure_apply (a : α) (p : σ) : (pure a : Local σ α) p = ⟨.ok a, p, []⟩ := rfl

/-- After an action that succeeded the next one goes on from the part that was left, with what was
noted in front. -/
lemma bind_of_ok {x : Local σ α} {f : α → Local σ β} {p q : σ} {a : α} {notes : List Fault}
    (h : x p = ⟨.ok a, q, notes⟩) :
    (x >>= f) p = ⟨(f a q).result, (f a q).state, notes ++ (f a q).notes⟩ := by
  change (match (x p).result with | .ok a => _ | .error e => _) = _
  rw [h]

/-- After an action that stopped nothing more is done. -/
lemma bind_of_error {x : Local σ α} {f : α → Local σ β} {p q : σ} {e : Fault}
    {notes : List Fault} (h : x p = ⟨.error e, q, notes⟩) :
    (x >>= f) p = ⟨.error e, q, notes⟩ := by
  change (match (x p).result with | .ok a => _ | .error e => _) = _
  rw [h]

/-- What is looked at is the part as it is. -/
@[simp]
lemma look_bind (f : σ → Local σ β) (p : σ) : (look >>= f) p = f p p := rfl

/-- Actions one after another can be bracketed in any way. -/
instance : LawfulMonad (Local σ) := LawfulMonad.mk' _
  (fun x => funext fun p => by
    change (x >>= fun a => pure a) p = x p
    rcases h : x p with ⟨_ | a, q, notes⟩
    · rw [bind_of_error h]
    · rw [bind_of_ok h, pure_apply, List.append_nil])
  (fun a f => funext fun p => by
    rw [bind_of_ok (pure_apply a p), List.nil_append])
  (fun x f g => funext fun p => by
    rcases h : x p with ⟨_ | a, q, notes⟩
    · rw [bind_of_error h, bind_of_error (bind_of_error h)]
    · rw [bind_of_ok h]
      rcases h' : f a q with ⟨_ | b, r, notes'⟩
      · rw [bind_of_error h', bind_of_error (by rw [bind_of_ok h, h'])]
      · rw [bind_of_ok h', bind_of_ok (by rw [bind_of_ok h, h']), List.append_assoc])

/-- A check that is passed gives what it found. -/
@[simp]
lemma check_ok_bind (a : α) (f : α → Local σ β) : (check (.ok a) >>= f) = f a :=
  pure_bind a f

/-- A check that is not passed stops for its cause. -/
@[simp]
lemma check_error_bind (cause : Cause) (f : α → Local σ β) :
    (check (.error cause) >>= f) = refuse cause := rfl

/-- An operand that can be read gives what it says. -/
@[simp]
lemma checkOperand_ok_bind (a : α) (f : α → Local σ β) : (checkOperand (.ok a) >>= f) = f a :=
  pure_bind a f

/-- An operand that cannot be read stops as malformed. -/
@[simp]
lemma checkOperand_error_bind (error : OperandError) (f : α → Local σ β) :
    (checkOperand (.error error) >>= f) = refuse (.malformed error) := rfl

/-- Where an action succeeds both its parts do. -/
lemma bind_eq_ok {x : Local σ α} {f : α → Local σ β} {p : σ} {b : β}
    (h : ((x >>= f) p).result = .ok b) :
    ∃ a, (x p).result = .ok a ∧ (f a (x p).state).result = .ok b ∧
      ((x >>= f) p).state = (f a (x p).state).state ∧
      ((x >>= f) p).notes = (x p).notes ++ (f a (x p).state).notes := by
  rcases hx : x p with ⟨_ | a, q, notes⟩
  · rw [bind_of_error hx] at h
    cases h
  · rw [bind_of_ok hx] at h ⊢
    exact ⟨a, rfl, h, rfl, rfl⟩

/-! ## Operators under the policy for faults -/

section Policy

variable {operator : Operator} {operand : String} {undo : Local (Element Unit) Unit}
  {lacking abandoned a : α} {act act' : Local (Element Unit) α} {P Q R : Element Unit} {f : Fault}
  {notes later : List Fault}

/-- The policy for faults does nothing to an action that succeeds. -/
lemma guarded_of_ok (h : act P = ⟨.ok a, Q, notes⟩) :
    guarded operator operand undo lacking abandoned act P = ⟨.ok a, Q, notes⟩ := by
  simp only [guarded, orElse, inOperator, h]

/-- An operator that stops is settled where it has stopped. -/
lemma guarded_of_error (h : act P = ⟨.error f, R, notes⟩) :
    guarded operator operand undo lacking abandoned act P =
      let left := settle undo lacking abandoned
        (f.inOperator ⟨operator, R.shell.describe, operand⟩) R
      ⟨left.result, left.state, notes ++ left.notes⟩ := by
  simp only [guarded, orElse, inOperator, h]

/-- Where an operator stops for something that the model lacks, it is undone and that is noted. -/
lemma guarded_of_lacking (h : act P = ⟨.error f, R, notes⟩) (hf : f.faultClass = .content)
    (hundo : undo R = ⟨.ok (), Q, later⟩) :
    guarded operator operand undo lacking abandoned act P = ⟨.ok lacking, Q,
      notes ++ (later ++ [f.inOperator ⟨operator, R.shell.describe, operand⟩])⟩ := by
  have hclass (site : Site) : (f.inOperator site).faultClass = .content := hf
  simp only [guarded_of_error h, settle, hclass]
  rw [bind_of_ok hundo]
  rfl

/-- Where a formatter fails the branch is given up, and nothing is undone. -/
lemma guarded_of_other (h : act P = ⟨.error f, R, notes⟩) (hf : f.faultClass = .other) :
    guarded operator operand undo lacking abandoned act P = ⟨.ok abandoned, R,
      notes ++ [f.inOperator ⟨operator, R.shell.describe, operand⟩]⟩ := by
  have hclass (site : Site) : (f.inOperator site).faultClass = .other := hf
  simp only [guarded_of_error h, settle, hclass]
  rfl

/-- An operator that stops for a fault in the template stops the walk. -/
lemma guarded_of_assertion (h : act P = ⟨.error f, R, notes⟩) (hf : f.faultClass = .assertion) :
    guarded operator operand undo lacking abandoned act P =
      ⟨.error (f.inOperator ⟨operator, R.shell.describe, operand⟩), R, notes⟩ := by
  have hclass (site : Site) : (f.inOperator site).faultClass = .assertion := hf
  simp only [guarded_of_error h, settle, hclass, fail, List.append_nil]

/-- The policy for faults lets assertions through. -/
lemma guarded_assertion (h : (act P).result = .error f) (hf : f.faultClass = .assertion) (a : α) :
    (guarded operator operand undo lacking abandoned act P).result ≠ .ok a := by
  rcases e : act P with ⟨result, R, notes⟩
  rw [e] at h
  cases h
  rw [guarded_of_assertion e hf]
  nofun

/-- Under the policy for faults two actions do the same where they do the same by themselves. -/
lemma guarded_congr (h : act P = act' P) : guarded operator operand undo lacking abandoned act P =
    guarded operator operand undo lacking abandoned act' P := by
  simp only [guarded, orElse, inOperator, h]

/-- What an operator answers is its own answer, or what stands for it where the operator stops. -/
lemma guarded_eq_ok
    (h : (guarded operator operand undo lacking abandoned act P).result = .ok a) :
    (act P).result = .ok a ∨ a = lacking ∨ a = abandoned := by
  rcases e : act P with ⟨f | b, R, notes⟩
  · cases hclass : f.faultClass with
    | content =>
      simp only [guarded_of_error e, settle,
        show ∀ site, (f.inOperator site).faultClass = .content from fun _ => hclass] at h
      obtain ⟨_, -, hrest, -, -⟩ := bind_eq_ok h
      cases hrest
      exact .inr (.inl rfl)
    | assertion => exact absurd h (guarded_assertion (congrArg Yield.result e) hclass a)
    | other =>
      rw [guarded_of_other e hclass] at h
      cases h
      exact .inr (.inr rfl)
  · rw [guarded_of_ok e] at h
    exact .inl h

end Policy

/-! ## What an action leaves as it is -/

/-- An action keeps a property of the part, whether it succeeds or stops. -/
def Keeps (R : σ → Prop) (act : Local σ α) : Prop :=
  ∀ p, R p → R (act p).state

namespace Keeps

variable {R : σ → Prop}

/-- Giving an answer keeps any property. -/
lemma pure (a : α) : Keeps R (Pure.pure a : Local σ α) := fun _ h => h

/-- Two actions one after another keep a property that both keep. -/
lemma bind {x : Local σ α} {f : α → Local σ β} (hx : Keeps R x) (hf : ∀ a, Keeps R (f a)) :
    Keeps R (x >>= f) := by
  intro p hp
  rcases e : x p with ⟨_ | a, q, notes⟩
  · rw [bind_of_error e]
    exact (e ▸ hx p hp :)
  · rw [bind_of_ok e]
    exact hf a q (e ▸ hx p hp :)

/-- What follows an action has to keep a property only where the action succeeds. -/
lemma bind_after {x : Local σ α} {f : α → Local σ β} (hx : Keeps R x)
    (hf : ∀ p a, R p → (x p).result = .ok a → R (f a (x p).state).state) :
    Keeps R (x >>= f) := by
  intro p hp
  rcases e : x p with ⟨_ | a, q, notes⟩
  · rw [bind_of_error e]
    exact (e ▸ hx p hp :)
  · rw [Local.bind_of_ok e]
    have hlater := hf p a hp (congrArg Yield.result e)
    rwa [e] at hlater

/-- Looking at the part keeps any property. -/
lemma look : Keeps R (Local.look : Local σ σ) := fun _ h => h

/-- Noting a fault keeps any property. -/
lemma note (f : Fault) : Keeps R (Local.note f : Local σ Unit) := fun _ h => h

/-- Stopping keeps any property. -/
lemma fail (f : Fault) : Keeps R (Local.fail f : Local σ α) := fun _ h => h

/-- Stopping for a cause keeps any property. -/
lemma refuse (cause : Cause) : Keeps R (Local.refuse cause : Local σ α) := fun _ h => h

/-- A change keeps a property if it leads from parts with it to parts with it. -/
lemma change {f : σ → σ} (h : ∀ p, R p → R (f p)) : Keeps R (Local.change f) := h

/-- A check keeps any property. -/
lemma check (e : Except Cause α) : Keeps R (Local.check e : Local σ α) := by
  cases e with
  | ok a => exact pure a
  | error cause => exact refuse cause

/-- Reading an operand keeps any property. -/
lemma checkOperand (e : Except OperandError α) : Keeps R (Local.checkOperand e : Local σ α) := by
  cases e with
  | ok a => exact pure a
  | error error => exact refuse _

/-- Actions one after another keep a property that each of them keeps. -/
lemma forM {xs : List α} {f : α → Local σ Unit} (h : ∀ x ∈ xs, Keeps R (f x)) :
    Keeps R (xs.forM f) :=
  forM_of_each (pure ()) (fun hw hv => bind hw fun _ => hv) h

variable {R : Element Unit → Prop} {operator : Operator} {operand : String}

/-- An action in an operator keeps what it keeps by itself. -/
lemma inOperator {act : Local (Element Unit) α} (h : Keeps R act) :
    Keeps R (act.inOperator operator operand) := by
  intro P hP
  have := h P hP
  rcases e : act P with ⟨_ | a, Q, notes⟩ <;> simp only [Local.inOperator, e] at this ⊢ <;>
    exact this

/-- Recording a fault and going on keeps any property. -/
lemma recover (cause : Cause) : Keeps R (Local.recover operator operand cause) := by
  intro P hP
  simp only [Local.recover]
  split <;> exact hP

/-- Handling a fault keeps a property that the action and the handler keep. -/
lemma orElse {act : Local (Element Unit) α} {handle : Fault → Local (Element Unit) α}
    (h : Keeps R act) (hh : ∀ f, Keeps R (handle f)) : Keeps R (act.orElse handle) := by
  intro P hP
  have := h P hP
  rcases e : act P with ⟨_ | a, Q, notes⟩ <;> simp only [Local.orElse, e] at this ⊢
  · exact hh _ _ this
  · exact this

/-- Settling a fault keeps a property that undoing keeps. -/
lemma settle {undo : Local (Element Unit) Unit} {lacking abandoned : α} (h : Keeps R undo)
    (f : Fault) : Keeps R (Local.settle undo lacking abandoned f) := by
  unfold Local.settle
  split
  · exact bind h fun _ => bind (note f) fun _ => pure lacking
  · exact fail f
  · exact bind (note f) fun _ => pure abandoned

/-- An action under the policy for faults keeps a property that it keeps and that undoing keeps. -/
lemma guarded {undo : Local (Element Unit) Unit} {lacking abandoned : α}
    {act : Local (Element Unit) α} (hundo : Keeps R undo) (h : Keeps R act) :
    Keeps R (Local.guarded operator operand undo lacking abandoned act) :=
  orElse (inOperator h) (settle hundo)

end Keeps

end Local

end TreeTemplate
