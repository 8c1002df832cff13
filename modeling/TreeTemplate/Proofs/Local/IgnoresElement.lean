import TreeTemplate.Proofs.Local.Inject

/-!
# Actions that look at nothing

What some actions do depends on the model alone: they leave an element as it is, and what they
answer and note is the same at every element, save for the descriptions of elements in faults.

Main statements:

* `IgnoresElement.guarded` — under the policy for faults;
* `IgnoresElement.conditional`, `IgnoresElement.object` — conditions and the scopes that operands
  open.
-/

namespace TreeTemplate

namespace Fault

/-- A fault without the description of the element at which it arose. -/
def blur (f : Fault) : Fault :=
  ⟨f.cause, f.site?.map fun site => { site with element := "" }⟩

/-- Faults that are equal but for the element are of the same class. -/
lemma faultClass_of_blur {f g : Fault} (h : f.blur = g.blur) : f.faultClass = g.faultClass :=
  congrArg (fun f => f.cause.faultClass) h

/-- Faults that are equal but for the element are so in an operator of any element. -/
lemma blur_inOperator {f g : Fault} (h : f.blur = g.blur) (operator : Operator)
    (element element' operand : String) : (f.inOperator ⟨operator, element, operand⟩).blur =
      (g.inOperator ⟨operator, element', operand⟩).blur := by
  obtain ⟨cause, site?⟩ := f
  obtain ⟨cause', site?'⟩ := g
  simp only [blur, mk.injEq] at h
  obtain ⟨rfl, hsite⟩ := h
  cases site? <;> cases site?' <;> simp_all [blur, inOperator]

end Fault

namespace Local

variable {α β : Type} {c : Setting} {scope : Value} {operand : String} {operator : Operator}

/-- An action leaves an element as it is, and does the same at every element. -/
def IgnoresElement (act : Local (Element Unit) α) : Prop :=
  ∀ P Q, (act P).state = P ∧
    (act P).result.mapError Fault.blur = (act Q).result.mapError Fault.blur ∧
    (act P).notes.map Fault.blur = (act Q).notes.map Fault.blur

namespace IgnoresElement

/-- Giving an answer does not look at the element. -/
lemma pure (a : α) : IgnoresElement (Pure.pure a : Local (Element Unit) α) :=
  fun _ _ => ⟨rfl, rfl, rfl⟩

/-- Stopping does not look at the element. -/
lemma fail (f : Fault) : IgnoresElement (Local.fail f : Local (Element Unit) α) :=
  fun _ _ => ⟨rfl, rfl, rfl⟩

/-- Stopping for a cause does not look at the element. -/
lemma refuse (cause : Cause) : IgnoresElement (Local.refuse cause : Local (Element Unit) α) :=
  fail _

/-- A check does not look at the element. -/
lemma check (e : Except Cause α) : IgnoresElement (Local.check e : Local (Element Unit) α) := by
  cases e with
  | ok a => exact pure a
  | error cause => exact refuse cause

/-- Reading an operand does not look at the element. -/
lemma checkOperand (e : Except OperandError α) :
    IgnoresElement (Local.checkOperand e : Local (Element Unit) α) := by
  cases e with
  | ok a => exact pure a
  | error error => exact refuse _

/-- Actions one after another do not look at the element if none of them does. -/
lemma bind {x : Local (Element Unit) α} {f : α → Local (Element Unit) β} (hx : IgnoresElement x)
    (hf : ∀ a, IgnoresElement (f a)) : IgnoresElement (x >>= f) := by
  intro P Q
  obtain ⟨hP, hresult, hnotes⟩ := hx P Q
  have hQ := (hx Q P).1
  rcases eP : x P with ⟨e | a, P', notes⟩ <;> rcases eQ : x Q with ⟨e' | a', Q', notes'⟩ <;>
    rw [eP, eQ] at hresult hnotes <;> rw [eP] at hP <;> rw [eQ] at hQ <;>
    simp only [Except.mapError, Except.error.injEq, Except.ok.injEq, reduceCtorEq]
      at hP hQ hresult hnotes
  · rw [bind_of_error eP, bind_of_error eQ]
    exact ⟨hP, congrArg Except.error hresult, hnotes⟩
  · subst hresult
    rw [bind_of_ok eP, bind_of_ok eQ, hP, hQ]
    obtain ⟨hstate, hresult', hnotes'⟩ := hf a P Q
    exact ⟨hstate, hresult', by rw [List.map_append, List.map_append, hnotes, hnotes']⟩

/-- Actions for several things do not look at the element if none of them does. -/
lemma forM {γ : Type} {xs : List γ} {f : γ → Local (Element Unit) Unit}
    (h : ∀ x, IgnoresElement (f x)) :
    IgnoresElement (xs.forM f) :=
  forM_of_each (pure ()) (fun hw hv => bind hw fun _ => hv) fun x _ => h x

/-- Recording a fault tells the element and otherwise does not look at it. -/
lemma recover (cause : Cause) : IgnoresElement (Local.recover operator operand cause) := by
  intro P Q
  simp only [Local.recover, Fault.faultClass]
  cases cause.faultClass <;> exact ⟨rfl, rfl, rfl⟩

/-- An action in an operator looks at the element no more than it does by itself. -/
lemma inOperator {act : Local (Element Unit) α} (h : IgnoresElement act) :
    IgnoresElement (act.inOperator operator operand) := by
  intro P Q
  obtain ⟨hP, hresult, hnotes⟩ := h P Q
  rcases eP : act P with ⟨e | a, P', notes⟩ <;> rcases eQ : act Q with ⟨e' | a', Q', notes'⟩ <;>
    rw [eP, eQ] at hresult hnotes <;> rw [eP] at hP <;>
    simp only [Except.mapError, Except.error.injEq, Except.ok.injEq, reduceCtorEq]
      at hP hresult hnotes <;>
    simp only [Local.inOperator, eP, eQ]
  · exact ⟨hP, congrArg Except.error (Fault.blur_inOperator hresult _ _ _ _), hnotes⟩
  · exact ⟨hP, congrArg Except.ok hresult, hnotes⟩

/-- Handling a fault does not look at the element if neither the action nor the handler does. -/
lemma orElse {act : Local (Element Unit) α} {handle : Fault → Local (Element Unit) α}
    (h : IgnoresElement act)
    (hh : ∀ f g P Q, f.blur = g.blur → (handle f P).state = P ∧
      (handle f P).result.mapError Fault.blur = (handle g Q).result.mapError Fault.blur ∧
      (handle f P).notes.map Fault.blur = (handle g Q).notes.map Fault.blur) :
    IgnoresElement (act.orElse handle) := by
  intro P Q
  obtain ⟨hP, hresult, hnotes⟩ := h P Q
  have hQ := (h Q P).1
  rcases eP : act P with ⟨e | a, P', notes⟩ <;> rcases eQ : act Q with ⟨e' | a', Q', notes'⟩ <;>
    rw [eP, eQ] at hresult hnotes <;> rw [eP] at hP <;> rw [eQ] at hQ <;>
    simp only [Except.mapError, Except.error.injEq, Except.ok.injEq, reduceCtorEq]
      at hP hQ hresult hnotes <;>
    simp only [Local.orElse, eP, eQ]
  · rw [hP, hQ]
    obtain ⟨hstate, hresult', hnotes'⟩ := hh e e' P Q hresult
    exact ⟨hstate, hresult', by rw [List.map_append, List.map_append, hnotes, hnotes']⟩
  · exact ⟨hP, congrArg Except.ok hresult, hnotes⟩

/-- An action under the policy for faults, where nothing has to be undone. -/
lemma guarded {lacking abandoned : α} {act : Local (Element Unit) α} (h : IgnoresElement act) :
    IgnoresElement (Local.guarded operator operand (Pure.pure ()) lacking abandoned act) := by
  refine orElse (inOperator h) fun f g P Q hblur => ?_
  unfold Local.settle
  rw [← Fault.faultClass_of_blur hblur]
  cases f.faultClass with
  | content => exact ⟨rfl, rfl, congrArg (fun f => [f]) hblur⟩
  | assertion => exact ⟨rfl, congrArg Except.error hblur, rfl⟩
  | other => exact ⟨rfl, rfl, congrArg (fun f => [f]) hblur⟩

/-- Where an action succeeds it succeeds at every element, with the same answer. -/
lemma of_ok {act : Local (Element Unit) α} (h : IgnoresElement act) {P : Element Unit} {a : α}
    (hP : (act P).result = .ok a) (Q : Element Unit) :
    ∃ notes, act Q = ⟨.ok a, Q, notes⟩ ∧
      notes.map Fault.blur = (act P).notes.map Fault.blur := by
  obtain ⟨hstate, hresult, hnotes⟩ := h Q P
  rw [hP] at hresult
  rcases e : act Q with ⟨f | b, Q', notes⟩
  · rw [e] at hresult
    cases hresult
  · rw [e] at hstate hresult hnotes
    cases hresult
    cases hstate
    exact ⟨notes, rfl, hnotes⟩

/-- What a condition makes of an element does not depend on the element. -/
lemma conditional (c : Setting) (scope : Value) (operand : String)
    (operator : ConditionalOperator) :
    IgnoresElement (Local.conditional c scope operand operator) := by
  refine guarded ?_
  cases operator with
  | condition =>
    exact bind (checkOperand _) fun _ => bind (check _) fun answer =>
      bind (forM fun cause => recover cause) fun _ => pure _
  | exclude => exact pure _

/-- The scope that an operand opens does not depend on the element. -/
lemma object (c : Setting) (walk : List Nat → Value → Local (Element Unit) Unit)
    (positions : List Nat) (scope : Value) (operand : String) :
    IgnoresElement (Local.content c walk positions scope operand .object) := by
  refine guarded (bind ?_ fun _ => pure _)
  unfold Local.runObject
  split
  · exact pure _
  · refine bind (check _) fun value => ?_
    split
    · exact pure _
    · exact refuse _

end IgnoresElement

end Local

end TreeTemplate
