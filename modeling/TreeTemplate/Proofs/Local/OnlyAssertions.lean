import TreeTemplate.Proofs.Local.Causes
import TreeTemplate.Proofs.Local.Inject

/-!
# What stops a walk

A walk is stopped by a template that is written wrongly and by nothing else: what the model lacks is
met by undoing an operator, and anything else gives up the branch.

Main statements:

* `OnlyAssertions.inject`, `OnlyAssertions.reset` — every fault that stops a walk is an assertion.
-/

namespace TreeTemplate.Local

variable {σ α β : Type}

/-- An action stops for faults in the template only. -/
def OnlyAssertions (act : Local σ α) : Prop :=
  ∀ ⦃p : σ⦄ ⦃f : Fault⦄, (act p).result = .error f → f.faultClass = .assertion

namespace OnlyAssertions

/-- Giving an answer does not stop. -/
lemma pure (a : α) : OnlyAssertions (Pure.pure a : Local σ α) := fun _ _ h => nomatch h

/-- Changing the part does not stop. -/
lemma change (f : σ → σ) : OnlyAssertions (Local.change f) := fun _ _ h => nomatch h

/-- Noting a fault does not stop. -/
lemma note (f : Fault) : OnlyAssertions (Local.note f : Local σ Unit) := fun _ _ h => nomatch h

/-- Stopping for an assertion is stopping for an assertion. -/
lemma fail {f : Fault} (hf : f.faultClass = .assertion) : OnlyAssertions
    (Local.fail f : Local σ α) := by
  intro p g h
  cases h
  exact hf

/-- A cause that is an assertion stops as one. -/
lemma refuse {cause : Cause} (hcause : cause.faultClass = .assertion) :
    OnlyAssertions (Local.refuse cause : Local σ α) :=
  fail hcause

/-- A check stops for an assertion if its cause is one. -/
lemma check {e : Except Cause α} (he : ∀ cause, e = .error cause → cause.faultClass = .assertion) :
    OnlyAssertions (Local.check e : Local σ α) := by
  cases e with
  | ok a => exact pure a
  | error cause => exact refuse (he cause rfl)

/-- An operand that cannot be read is an assertion. -/
lemma checkOperand (e : Except OperandError α) : OnlyAssertions
    (Local.checkOperand e : Local σ α) := by
  cases e with
  | ok a => exact pure a
  | error error => exact refuse rfl

/-- Two actions one after another stop for assertions only if both do. -/
lemma bind {x : Local σ α} {f : α → Local σ β} (hx : OnlyAssertions x)
    (hf : ∀ a, OnlyAssertions (f a)) :
    OnlyAssertions (x >>= f) := by
  intro p g h
  rcases e : x p with ⟨e' | a, q, notes⟩
  · rw [bind_of_error e] at h
    cases h
    exact hx (congrArg Yield.result e)
  · rw [bind_of_ok e] at h
    exact hf a h

/-- Actions one after another stop for assertions only if each of them does. -/
lemma forM {xs : List α} {f : α → Local σ Unit} (h : ∀ x ∈ xs, OnlyAssertions (f x)) :
    OnlyAssertions (xs.forM f) :=
  forM_of_each (pure ()) (fun hw hv => bind hw fun _ => hv) h

variable {operator : Operator} {operand : String} {c : Setting} {scope : Value}

/-- The site that a fault gets does not change its class. -/
lemma inOperator {act : Local (Element Unit) α} (h : OnlyAssertions act) :
    OnlyAssertions (act.inOperator operator operand) := by
  intro P f hf
  rcases e : act P with ⟨g | a, Q, notes⟩
  · simp only [Local.inOperator, e] at hf
    cases hf
    have hg : g.faultClass = .assertion := h (congrArg Yield.result e)
    exact hg
  · simp only [Local.inOperator, e] at hf
    cases hf

/-- Under the policy for faults an operator stops only where undoing it does or where it stops for
a fault in the template. -/
lemma guarded {undo : Local (Element Unit) Unit} {lacking abandoned : α}
    {act : Local (Element Unit) α} (hundo : OnlyAssertions undo) :
    OnlyAssertions (Local.guarded operator operand undo lacking abandoned act) := by
  intro P f hf
  rcases e : act.inOperator operator operand P with ⟨g | a, Q, notes⟩
  · simp only [Local.guarded, Local.orElse, e] at hf
    have hsettle : OnlyAssertions (Local.settle undo lacking abandoned g) := by
      unfold Local.settle
      split
      · exact bind hundo fun _ => bind (note g) fun _ => pure lacking
      · rename_i hclass
        exact fail hclass
      · exact bind (note g) fun _ => pure abandoned
    exact hsettle hf
  · simp only [Local.guarded, Local.orElse, e] at hf
    cases hf

/-! ## Operators -/

/-- A script stops for assertions only if each of its touches does. -/
lemma play {script : List Touch}
    (h : ∀ touch ∈ script, OnlyAssertions (touch.play operator operand)) :
    OnlyAssertions (Local.play operator operand script) :=
  forM h

/-- An operator that sets attributes is undone without a stop but for an assertion. -/
lemma undoAttribute (operator : AttributeOperator) :
    OnlyAssertions (Local.undoAttribute operand operator) := by
  intro P f hf
  refine play (fun touch ht => ?_) hf
  cases operator with
  | attributes =>
    simp only [AttributeOperator.undoScript] at ht
    split at ht
    · rename_i e
      rw [List.mem_singleton.1 ht]
      exact refuse (Clause.parse_class e)
    · obtain ⟨clause, -, rfl⟩ := List.mem_map.1 ht
      exact change _
  | classes =>
    simp only [AttributeOperator.undoScript] at ht
    split at ht
    · rename_i e
      rw [List.mem_singleton.1 ht]
      exact refuse (Clause.parse_class e)
    · obtain ⟨clause, -, ht⟩ := List.mem_flatMap.1 ht
      unfold AttributeOperator.undoClause at ht
      split at ht
      · rw [List.mem_singleton.1 ht]
        exact change _
      · cases ht
  | named which =>
    rw [List.mem_singleton.1 ht]
    exact change _
  | value =>
    simp only [AttributeOperator.undoScript, AttributeOperator.removeValueScript] at ht
    split at ht <;> rw [List.mem_singleton.1 ht] <;> exact change _

/-- An operator that sets attributes stops for assertions only, whatever the model lacks. -/
lemma execute (operator : AttributeOperator) : OnlyAssertions
    (Local.execute c scope operand operator) :=
  guarded (undoAttribute operator)

/-- An operator that shows and hides an element stops for assertions only. -/
lemma conditional (operator : ConditionalOperator) :
    OnlyAssertions (Local.conditional c scope operand operator) :=
  guarded (pure ())

/-- Looking for the template of a list stops for assertions only. -/
lemma itemTemplate : OnlyAssertions Local.itemTemplate := by
  intro P f h
  unfold Local.itemTemplate at h
  split at h
  · cases h
  · cases h
    rfl
  · split at h <;> cases h
    rfl

/-- Looking for the templates of a map stops for assertions only. -/
lemma entryTemplates : OnlyAssertions Local.entryTemplates := by
  intro P f h
  unfold Local.entryTemplates at h
  split at h
  · cases h
    rfl
  · cases h
  · split at h <;> cases h <;> rfl

/-- An operator that fills an element is undone without a stop but for an assertion. -/
lemma undoContent (operator : ContentOperator) : OnlyAssertions (Local.undoContent operator) := by
  cases operator with
  | list => exact bind itemTemplate fun _ => change _
  | map => exact bind entryTemplates fun _ => change _
  | object => exact pure ()
  | _ => exact change _

/-! ## Walks -/

/-- An action on elements stops at a node as it stops at the element there. -/
lemma onElement {act : Local (Element Unit) Unit} (h : OnlyAssertions act) : OnlyAssertions
    (Local.onElement act) := by
  intro t f hf
  cases t with
  | element => exact h hf
  | text => cases hf

/-- What stops one of several actions on nodes is an assertion if each of them stops for assertions
only. -/
lemma sweep {xs : List (Stocked Unit × Local (Element Unit) Unit)}
    (h : ∀ x ∈ xs, OnlyAssertions x.2)
    {f : Fault} (hf : (Local.sweep xs).result = .error f) : f.faultClass = .assertion := by
  induction xs with
  | nil => cases hf
  | cons x xs ih =>
    obtain ⟨t, act⟩ := x
    rcases e : Local.onElement act t with ⟨g | _, u, notes⟩
    · rw [sweep_cons_of_error e] at hf
      cases hf
      exact onElement (h _ List.mem_cons_self) (congrArg Yield.result e)
    · rw [sweep_cons_of_ok e] at hf
      exact ih (fun y hy => h y (List.mem_cons_of_mem _ hy)) hf

/-- An action on the children of an element stops as it does by itself. -/
lemma onChildren {act : Local (List (Stocked Unit)) Unit} (h : OnlyAssertions act) :
    OnlyAssertions (Local.onChildren act) :=
  fun _ _ hf => h hf

/-- An action on what is below an element stops for assertions only if it does so at each
element. -/
lemma below {act : Local (Element Unit) Unit} (h : OnlyAssertions act) : OnlyAssertions
    (Local.below act) := by
  refine onChildren fun ts f hf => sweep (fun x hx => ?_) hf
  obtain ⟨t, -, rfl⟩ := List.mem_map.1 hx
  exact h

/-- Copies that are filled one after another stop for assertions only if each of them does. -/
lemma place {copies : List (Stocked Unit × Local (Element Unit) Unit)}
    (h : ∀ copy ∈ copies, OnlyAssertions copy.2) : OnlyAssertions (Local.place copies) := by
  intro ts f hf
  refine sweep (fun x hx => ?_) hf
  obtain ⟨copy, hcopy, rfl⟩ := List.mem_map.1 hx
  exact h copy hcopy

/-- The items of a list or a map stop for assertions only if walking each of them does. -/
lemma expand {positions : List Nat} {ordered : Bool}
    {walk : List Nat → Value → Local (Element Unit) Unit}
    (h : ∀ inside value, OnlyAssertions (walk inside value))
    (i : Nat) (items : List (List (Stocked Unit × Value))) :
    OnlyAssertions (Local.expand positions ordered walk i items) := by
  induction items generalizing i with
  | nil => exact pure ()
  | cons copies later ih =>
    refine bind (place fun copy hcopy => ?_) fun _ => ih _
    obtain ⟨_, _, rfl⟩ := List.mem_map.1 hcopy
    exact h _ _

/-- An operator that fills an element stops for assertions only, whatever the model lacks. -/
lemma content {walk : List Nat → Value → Local (Element Unit) Unit} {positions : List Nat}
    (operator : ContentOperator) :
    OnlyAssertions (Local.content c walk positions scope operand operator) :=
  guarded (undoContent operator)

/-- Directives that cannot be read are an assertion. -/
lemma directives (dialect : Dialect) : OnlyAssertions (Local.directives dialect) := fun _ _ hf =>
  check (fun _ he => Directives.ofAttrs_class he) hf

/-- The limit of the depth is an assertion. -/
lemma refuseDepth (depth : Nat) : OnlyAssertions (Local.refuseDepth depth) :=
  fun _ _ hf => by
    cases hf
    rfl

/-- Setting the attributes of an element stops for assertions only. -/
lemma decorate (ds : Directives) : OnlyAssertions (Local.decorate c ds scope) := by
  refine bind (forM fun _ _ => execute _) fun _ => ?_
  split
  · exact pure _
  · refine bind (conditional _) fun visibility => ?_
    cases visibility with
    | shown => exact bind (change _) fun _ => pure _
    | hidden => exact bind (change _) fun _ => pure _
    | abandoned => exact pure _

/-- Filling an element stops for assertions only if walking the elements that are put in does. -/
lemma fill {walk : List Nat → Value → Bool → Local (Element Unit) Unit} {positions : List Nat}
    (h : ∀ inside value isItem, OnlyAssertions (walk inside value isItem)) (ds : Directives)
    (isItem : Bool) : OnlyAssertions (Local.fill c walk positions ds scope isItem) := by
  refine bind (fun P f hf => ?_) fun content? => bind ?_ fun inner? => ?_
  · unfold contentOperator at hf
    split at hf <;> cases hf
  · cases content? with
    | none => exact pure _
    | some => exact content _
  · cases inner? with
    | none => exact pure _
    | some => exact below (h _ _ _)

/-- Running the operators of an element stops for assertions only if walking what is below does. -/
lemma injectDirectives {walk : List Nat → Value → Bool → Local (Element Unit) Unit}
    {positions : List Nat} (h : ∀ inside value isItem, OnlyAssertions (walk inside value isItem))
    (ds : Directives) (isItem : Bool) :
    OnlyAssertions (Local.injectDirectives c walk positions ds scope isItem) := by
  unfold Local.injectDirectives
  split
  · exact fill h ds isItem
  · refine bind (decorate ds) fun goesOn => ?_
    split
    · exact fill h ds isItem
    · exact pure _

/-- Every fault that stops an injection is an assertion. -/
lemma inject (room depth : Nat) (positions : List Nat) (scope : Value) (isItem : Bool) :
    OnlyAssertions (Local.inject c room depth positions scope isItem) := by
  induction room generalizing depth positions scope isItem with
  | zero => exact refuseDepth depth
  | succ room ih =>
    exact bind (directives _) fun ds => injectDirectives (fun _ _ _ => ih _ _ _ _) ds isItem

/-- Every fault that stops a reset is an assertion. -/
lemma reset (dialect : Dialect) (room depth : Nat) : OnlyAssertions
    (Local.reset dialect room depth) := by
  induction room generalizing depth with
  | zero => exact refuseDepth depth
  | succ room ih =>
    refine bind (directives _) fun ds => bind (forM fun _ _ => inOperator (undoAttribute _))
      fun _ => bind ?_ fun _ => bind ?_ fun _ => below (ih _)
    · unfold unhide
      split
      · exact change _
      · exact pure _
    · unfold unfill
      split
      · exact inOperator (undoContent _)
      · exact pure _

end OnlyAssertions

/-! ## Where the model lacks something -/

/-- An action keeps a property of the part where it stops for something that the model lacks. -/
def KeepsLacking (R : σ → Prop) (act : Local σ α) : Prop :=
  ∀ ⦃p : σ⦄ ⦃f : Fault⦄, R p → (act p).result = .error f → f.faultClass = .content →
    R (act p).state

namespace KeepsLacking

variable {R : σ → Prop}

/-- An action that keeps a property in any case keeps it where the model lacks something. -/
lemma of_keeps {act : Local σ α} (h : Keeps R act) : KeepsLacking R act :=
  fun p _ hp _ _ => h p hp

/-- An action that stops for assertions only does not stop for what the model lacks. -/
lemma of_onlyAssertions {act : Local σ α} (h : OnlyAssertions act) : KeepsLacking R act := by
  intro p f _ he hf
  have hclass := h he
  rw [hf] at hclass
  cases hclass

/-- If the second action keeps a property where the model lacks something, so do both, the first of
which keeps it in any case. -/
lemma bind {x : Local σ α} {f : α → Local σ β} (hx : Keeps R x) (hf : ∀ a, KeepsLacking R (f a)) :
    KeepsLacking R (x >>= f) := by
  intro p g hp he hg
  have hkept := hx p hp
  rcases e : x p with ⟨e' | a, q, notes⟩
  · rw [bind_of_error e]
    exact (e ▸ hkept :)
  · rw [bind_of_ok e] at he ⊢
    exact hf a (e ▸ hkept :) he hg

/-- If the second action stops for assertions only, it is the first that keeps a property where the
model lacks something. -/
lemma bind_onlyAssertions {x : Local σ α} {f : α → Local σ β} (hx : KeepsLacking R x)
    (hf : ∀ a, OnlyAssertions (f a)) : KeepsLacking R (x >>= f) := by
  intro p g hp he hg
  rcases e : x p with ⟨e' | a, q, notes⟩
  · rw [bind_of_error e] at he ⊢
    exact (e ▸ hx hp (congrArg Yield.result e) (by cases he; exact hg) :)
  · rw [bind_of_ok e] at he ⊢
    have hclass := hf a he
    rw [hg] at hclass
    cases hclass

end KeepsLacking

end TreeTemplate.Local
