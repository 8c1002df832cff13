import TreeTemplate.Proofs.Attributes.Effects
import TreeTemplate.Proofs.Attributes.Reserved

/-!
# Runs that match

Two actions on parts of trees that are alike match when they do the same to them, where of the
faults only the classes count: both succeed with the same answer or both stop, they note as much,
and they leave parts that are alike.

Main statements:

* `Matches.bind`, `Matches.guarded` — one after another, and under the policy for faults;
* `Matches.decorate` — decorating elements that look the same to the operators.
-/

namespace TreeTemplate

variable {σ α β : Type}

/-- Two runs have the same answer and leave related parts, and their faults are of the same
classes. -/
structure Yield.Matches (R : σ → σ → Prop) (x y : Yield σ α) : Prop where
  result : x.result.mapError Fault.faultClass = y.result.mapError Fault.faultClass
  notes : x.notes.map Fault.faultClass = y.notes.map Fault.faultClass
  state : R x.state y.state

namespace Local

/-- Two actions do the same to parts that are related. -/
def Matches (R : σ → σ → Prop) (act act' : Local σ α) : Prop :=
  ∀ ⦃p q : σ⦄, R p q → (act p).Matches R (act' q)

namespace Matches

variable {R : σ → σ → Prop}

/-- The same answer is given for both parts. -/
lemma pure (a : α) : Matches R (Pure.pure a : Local σ α) (Pure.pure a) :=
  fun _ _ h => ⟨rfl, rfl, h⟩

/-- Faults of one class stop both. -/
lemma fail {f g : Fault} (hclass : f.faultClass = g.faultClass) :
    Matches R (Local.fail f : Local σ α) (Local.fail g) :=
  fun _ _ h => ⟨congrArg Except.error hclass, rfl, h⟩

/-- Causes of one class stop both. -/
lemma refuse {cause cause' : Cause} (hclass : cause.faultClass = cause'.faultClass) :
    Matches R (Local.refuse cause : Local σ α) (Local.refuse cause') :=
  fail hclass

/-- Faults of one class are noted for both. -/
lemma note {f g : Fault} (hclass : f.faultClass = g.faultClass) :
    Matches R (Local.note f : Local σ Unit) (Local.note g) :=
  fun _ _ h => ⟨rfl, congrArg (fun faultClass => [faultClass]) hclass, h⟩

/-- Changes match that lead from related parts to related parts. -/
lemma change {f g : σ → σ} (h : ∀ p q, R p q → R (f p) (g q)) :
    Matches R (Local.change f) (Local.change g) :=
  fun p q hpq => ⟨rfl, rfl, h p q hpq⟩

/-- Checks match that find the same or stop for causes of one class. -/
lemma check {e e' : Except Cause α}
    (h : e.mapError Cause.faultClass = e'.mapError Cause.faultClass) :
    Matches R (Local.check e : Local σ α) (Local.check e') := by
  cases e with
  | error cause =>
    cases e' with
    | error cause' => exact refuse (Except.error.inj h)
    | ok a' => exact nomatch h
  | ok a =>
    cases e' with
    | error cause' => exact nomatch h
    | ok a' =>
      obtain rfl := Except.ok.inj h
      exact pure a

/-- Actions that look at the part go on as they do at the parts that they see. -/
lemma look {f g : σ → Local σ α} (h : ∀ p q, R p q → (f p p).Matches R (g q q)) :
    Matches R (Local.look >>= f) (Local.look >>= g) :=
  h

/-- Actions that match one after another match. -/
lemma bind {x x' : Local σ α} {f f' : α → Local σ β} (hx : Matches R x x')
    (hf : ∀ a, Matches R (f a) (f' a)) : Matches R (x >>= f) (x' >>= f') := by
  intro p q hpq
  obtain ⟨hresult, hnotes, hstate⟩ := hx hpq
  rcases e : x p with ⟨g | a, p', notes⟩ <;> rcases e' : x' q with ⟨g' | a', q', notes'⟩ <;>
    rw [e, e'] at hresult hnotes hstate <;>
    simp only [Except.mapError, Except.error.injEq, Except.ok.injEq, reduceCtorEq] at hresult
  · rw [bind_of_error e, bind_of_error e']
    exact ⟨congrArg Except.error hresult, hnotes, hstate⟩
  · subst hresult
    rw [bind_of_ok e, bind_of_ok e']
    obtain ⟨hresult', hnotes', hstate'⟩ := hf a hstate
    exact ⟨hresult', by rw [List.map_append, List.map_append, hnotes, hnotes'], hstate'⟩

/-- Actions one after another match if each of them does. -/
lemma forM {γ : Type} {xs : List γ} {f f' : γ → Local σ Unit}
    (h : ∀ x ∈ xs, Matches R (f x) (f' x)) : Matches R (xs.forM f) (xs.forM f') :=
  forM_of_pairs (pure ()) (fun hw hv => bind hw fun _ => hv) h

/-! ## The policy for faults -/

variable {R : Element Unit → Element Unit → Prop} {operator operator' : Operator}
  {operand operand' : String}

/-- Actions that match do so in whatever operators they are. -/
lemma inOperator {act act' : Local (Element Unit) α} (h : Matches R act act') :
    Matches R (act.inOperator operator operand) (act'.inOperator operator' operand') := by
  intro P Q hPQ
  obtain ⟨hresult, hnotes, hstate⟩ := h hPQ
  rcases e : act P with ⟨f | a, P', notes⟩ <;> rcases e' : act' Q with ⟨g | b, Q', notes'⟩ <;>
    rw [e, e'] at hresult hnotes hstate <;> simp only [Local.inOperator, e, e']
  · exact ⟨hresult, hnotes, hstate⟩
  · cases hresult
  · cases hresult
  · exact ⟨hresult, hnotes, hstate⟩

/-- Faults of one class are settled in ways that match if undoing does. -/
lemma settle {undo undo' : Local (Element Unit) Unit} {lacking abandoned : α} {f g : Fault}
    (hundo : Matches R undo undo') (hclass : f.faultClass = g.faultClass) :
    Matches R (Local.settle undo lacking abandoned f) (Local.settle undo' lacking abandoned g) := by
  unfold Local.settle
  rw [← hclass]
  split
  · exact bind hundo fun _ => bind (note hclass) fun _ => pure lacking
  · exact fail hclass
  · exact bind (note hclass) fun _ => pure abandoned

/-- Actions whose faults are handled match if the actions and the handlers do. -/
lemma orElse {act act' : Local σ α} {R : σ → σ → Prop} {handle handle' : Fault → Local σ α}
    (h : Matches R act act')
    (hh : ∀ f g, f.faultClass = g.faultClass → Matches R (handle f) (handle' g)) :
    Matches R (act.orElse handle) (act'.orElse handle') := by
  intro p q hpq
  obtain ⟨hresult, hnotes, hstate⟩ := h hpq
  rcases e : act p with ⟨f | a, p', notes⟩ <;> rcases e' : act' q with ⟨g | b, q', notes'⟩ <;>
    rw [e, e'] at hresult hnotes hstate <;> simp only [Local.orElse, e, e']
  · obtain ⟨hresult', hnotes', hstate'⟩ := hh f g (Except.error.inj hresult) hstate
    exact ⟨hresult', by rw [List.map_append, List.map_append, hnotes, hnotes'], hstate'⟩
  · cases hresult
  · cases hresult
  · exact ⟨hresult, hnotes, hstate⟩

/-- Actions under the policy for faults match if they do so by themselves and undoing does. -/
lemma guarded {undo undo' : Local (Element Unit) Unit} {lacking abandoned : α}
    {act act' : Local (Element Unit) α} (hundo : Matches R undo undo') (h : Matches R act act') :
    Matches R (Local.guarded operator operand undo lacking abandoned act)
      (Local.guarded operator' operand' undo' lacking abandoned act') :=
  orElse (inOperator h) fun _ _ hclass => settle hundo hclass

/-- An action that looks at nothing does the same everywhere. -/
lemma of_ignoresElement {act : Local (Element Unit) α} (h : IgnoresElement act) :
    Matches R act act := by
  intro P Q hPQ
  obtain ⟨hP, hresult, hnotes⟩ := h P Q
  have hQ := (h Q P).1
  have hclasses (f : Fault) : f.blur.faultClass = f.faultClass := rfl
  refine ⟨?_, ?_, by rwa [hP, hQ]⟩
  · have hmapped := congrArg (Except.mapError Fault.faultClass) hresult
    cases e : (act P).result <;> cases e' : (act Q).result <;> rw [e, e'] at hmapped <;>
      exact hmapped
  · have hmapped := congrArg (List.map Fault.faultClass) hnotes
    simpa only [List.map_map, Function.comp_def, hclasses] using hmapped

/-! ## Operators that set attributes -/

/-- A script matches itself where each of its touches leads from related parts to related parts. -/
lemma play {script : List Touch} (h : ∀ touch ∈ script, ∀ P Q, R P Q →
    R (touch.apply P) (touch.apply Q)) :
    Matches R (Local.play operator operand script) (Local.play operator operand script) := by
  refine forM fun touch ht => ?_
  cases touch with
  | recover cause => exact of_ignoresElement (IgnoresElement.recover cause)
  | refuse cause => exact refuse rfl
  | _ => exact change (h _ ht)

end Matches

end Local

/-- What a touch makes of the value of an attribute depends on that value alone, unless it is the
class. -/
lemma Touch.lookup_onAttrs_congr {name : String} (hname : name ≠ "class") (touch : Touch)
    {attrs attrs' : List (String × String)} (h : attrs'.lookup name = attrs.lookup name) :
    (touch.onAttrs attrs').lookup name = (touch.onAttrs attrs).lookup name := by
  by_cases hwrites : touch.name? = some name
  · cases touch with
    | put found value? =>
      cases hwrites
      have hput (attrs : List (String × String)) :
          ((put name value?).onAttrs attrs).lookup name = value? :=
        (put name value?).settled_onAttrs trivial attrs
      rw [hput, hput]
    | toggle => exact absurd (Option.some.inj hwrites).symm hname
    | _ => cases hwrites
  · rw [lookup_onAttrs hwrites, lookup_onAttrs hwrites, h]

namespace Element.ReadsLike

variable {d : Dialect} {P Q : Element Unit}

/-- If an element looks the same as another one, the other looks the same as it. -/
lemma symm (h : P.ReadsLike d Q) : Q.ReadsLike d P :=
  ⟨h.1.symm, h.2.symm⟩

/-- Touches leave elements looking the same. -/
lemma apply (touch : Touch) (h : P.ReadsLike d Q) :
    (touch.apply P).ReadsLike d (touch.apply Q) := by
  have hname : d.formatAttribute ≠ "class" := by
    have hreserves : d.reserves "class" = false := d.reserves_own (by decide)
    intro e
    simp [Dialect.reserves, e] at hreserves
  rw [Touch.apply_eq, Touch.apply_eq]
  exact ⟨h.1, touch.lookup_onAttrs_congr hname h.2⟩

/-- A script is the same for elements that look the same, or it refuses both. -/
lemma script_or_refuses {c : Setting} (h : P.ReadsLike c.engine.dialect Q)
    (operator : AttributeOperator) (scope : Value) (operand : String) :
    operator.script c Q.shell scope operand = operator.script c P.shell scope operand ∨
      ∃ cause cause', operator.script c P.shell scope operand = [.refuse cause] ∧
        operator.script c Q.shell scope operand = [.refuse cause'] ∧
          cause.faultClass = cause'.faultClass := by
  rcases h.script with heq | ⟨cause, hP, hclass⟩
  · exact .inl heq
  · rcases h.symm.script with heq | ⟨cause', hQ, hclass'⟩
    · exact .inl heq.symm
    · exact .inr ⟨cause, cause', hP, hQ, hclass.trans hclass'.symm⟩

end Element.ReadsLike

namespace Local.Matches

variable {c : Setting} {scope : Value} {operand : String}

/-- An operator does the same to elements that look the same. -/
lemma execute (operator : AttributeOperator) :
    Matches (Element.ReadsLike c.engine.dialect) (Local.execute c scope operand operator)
      (Local.execute c scope operand operator) := by
  refine guarded (fun P Q h => ?_) fun P Q h => ?_
  · unfold Local.undoAttribute
    rw [h.undoScript]
    exact play (fun touch _ _ _ h => h.apply touch) h
  · rcases h.script_or_refuses operator scope operand with heq | ⟨cause, cause', hP, hQ, hclass⟩
    · rw [heq]
      exact play (fun touch _ _ _ h => h.apply touch) h
    · rw [hP, hQ, play_singleton, play_singleton]
      exact refuse hclass h

/-- Elements that look the same are decorated in the same way. -/
lemma decorate (ds : Directives) :
    Matches (Element.ReadsLike c.engine.dialect) (Local.decorate c ds scope)
      (Local.decorate c ds scope) := by
  have hhidden (hidden : Bool) :
      Matches (Element.ReadsLike c.engine.dialect) (setHidden hidden) (setHidden hidden) :=
    change fun _ _ h => h
  refine bind (forM fun _ _ => execute _) fun _ => ?_
  split
  · exact pure _
  · refine bind (of_ignoresElement (IgnoresElement.conditional _ _ _ _)) fun visibility => ?_
    cases visibility with
    | shown => exact bind (hhidden _) fun _ => pure _
    | hidden => exact bind (hhidden _) fun _ => pure _
    | abandoned => exact pure _

end Local.Matches

end TreeTemplate
