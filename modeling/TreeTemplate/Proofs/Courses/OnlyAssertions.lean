import TreeTemplate.Proofs.Courses.Basic
import TreeTemplate.Proofs.Courses.Taking
import TreeTemplate.Proofs.Follow.Servings
import TreeTemplate.Proofs.Follow.Steps
import TreeTemplate.Proofs.Local.Causes

/-!
# Walks that only a wrong template stops

Whatever arises in an operator is met by the policy for faults, and only an assertion gets past it.
So it does not matter why an operator may fail; what is left are the faults outside of operators,
and those that arise where an operator is undone. These find fault with the template alone.

Main statements:

* `OnlyAssertions.guarded` — an operator under the policy for faults;
* `OnlyAssertions.inject`, `OnlyAssertions.injectSubtree`, `OnlyAssertions.reset` — whole walks.
-/

namespace TreeTemplate.Walk

variable {α β : Type}

/-- A walk stops for faults in the template only. -/
def OnlyAssertions (w : Walk α) : Prop :=
  ∀ ⦃s : State⦄ ⦃f : Fault⦄ ⦃s' : State⦄, w s = (.error (.fault f), s') →
    f.faultClass = .assertion

namespace OnlyAssertions

variable {n : NodeId} {operand : String}

/-- Giving an answer does not stop. -/
lemma pure (a : α) : OnlyAssertions (Pure.pure a : Walk α) := fun _ _ _ h => nomatch h

/-- Looking at the state does not stop. -/
lemma get : OnlyAssertions (MonadState.get : Walk State) := fun _ _ _ h => nomatch h

/-- Changing the state does not stop. -/
lemma changes (f : State → State) : OnlyAssertions (modify f : Walk Unit) := fun _ _ _ h =>
    nomatch h

/-- A node that is gone is no fault. -/
lemma missing (n : NodeId) : OnlyAssertions (MonadExcept.throw (.missing n) : Walk α) :=
  fun _ _ _ h => nomatch h

/-- Stopping for an assertion is stopping for an assertion. -/
lemma throw {f : Fault} (hf : f.faultClass = .assertion) :
    OnlyAssertions (MonadExcept.throw (.fault f) : Walk α) := by
  intro s g s' h
  cases h
  exact hf

/-- A cause that is an assertion stops as one. -/
lemma refuse {cause : Cause} (h : cause.faultClass = .assertion) :
    OnlyAssertions (Walk.refuse cause : Walk α) :=
  throw h

/-- A check stops for an assertion if its cause is one. -/
lemma check {e : Except Cause α} (he : ∀ cause, e = .error cause → cause.faultClass = .assertion) :
    OnlyAssertions (Walk.check e) := by
  cases e with
  | ok a => exact pure a
  | error cause => exact refuse (he cause rfl)

/-- Two walks one after another stop for assertions only if both do. -/
lemma bind {w : Walk α} {f : α → Walk β} (hw : OnlyAssertions w) (hf : ∀ a, OnlyAssertions (f a)) :
    OnlyAssertions (w >>= f) := by
  intro s g s' h
  rcases e : w s with ⟨stop | a, t⟩
  · rw [run_bind_of_error e] at h
    cases h
    exact hw e
  · rw [run_bind_of_ok e] at h
    exact hf a h

/-- Walks one after another stop for assertions only if each of them does. -/
lemma forM {γ : Type} {xs : List γ} {f : γ → Walk Unit} (h : ∀ x ∈ xs, OnlyAssertions (f x)) :
    OnlyAssertions (xs.forM f) :=
  forM_of_each (pure ()) (fun hw hv => bind hw fun _ => hv) h

/-- Walks one after another, whose answers are kept, stop for assertions only if each of them
does. -/
lemma mapM {γ : Type} {xs : List γ} {f : γ → Walk β} (h : ∀ x, OnlyAssertions (f x)) :
    OnlyAssertions (xs.mapM f) := by
  induction xs with
  | nil => exact pure []
  | cons x xs ih =>
    rw [List.mapM_cons]
    exact bind (h x) fun _ => bind ih fun _ => pure _

/-- Counting positions stops for nothing by itself. -/
lemma counting {ordered : Bool} {w : Walk α} (h : OnlyAssertions w) : OnlyAssertions
    (Walk.counting ordered w) := by
  cases ordered with
  | false => exact h
  | true =>
    intro s f s' e
    have hresult : (w { s with positions := 0 :: s.positions }).1 = .error (.fault f) :=
      congrArg Prod.fst e
    exact h (Prod.ext hresult rfl)

/-- Going deeper stops for nothing by itself. -/
lemma deeper {w : Walk Unit} (h : OnlyAssertions w) : OnlyAssertions (Walk.deeper w) := by
  intro s f s' e
  have hresult : (w { s with depth := s.depth + 1 }).1 = .error (.fault f) := congrArg Prod.fst e
  exact h (Prod.ext hresult rfl)

/-! ## The tree -/

/-- Looking for a node stops for no fault. -/
lemma node (n : NodeId) : OnlyAssertions (Walk.node n) := by
  refine bind get fun s => ?_
  cases s.document.find? n with
  | some t => exact pure t
  | none => exact missing n

/-- Changing the document stops for no fault. -/
lemma edit (n : NodeId) (f : NodeId → Document → Option Document) : OnlyAssertions
    (Walk.edit n f) := by
  refine bind get fun s => ?_
  cases f n s.document with
  | some d => exact changes _
  | none => exact missing n

/-- Changing a node stops for no fault. -/
lemma editNode (n : NodeId) (f : Tree NodeId → Tree NodeId) : OnlyAssertions (Walk.editNode n f) :=
  edit n _

/-- Setting or removing an attribute stops for no fault. -/
lemma putAttribute (n : NodeId) (name : String) (value? : Option String) :
    OnlyAssertions (Walk.putAttribute n name value?) := by
  cases value? with
  | some value => exact editNode n (·.setAttr name value)
  | none => exact editNode n (·.removeAttr name)

/-- Removing texts stops for no fault. -/
lemma removeText (n : NodeId) : OnlyAssertions (Walk.removeText n) :=
  edit n _

/-- What is wrong with the templates of an element is wrong with its declaration. -/
lemma taking : Taking fun _ w => OnlyAssertions w where
  pure := pure
  bind := bind
  get := get
  missing := missing
  refuse h _ := refuse h
  setStash _ := changes _
  detach n := edit n _
  remove n := edit n _

/-- Clearing an element stops for no fault. -/
lemma clear (n : NodeId) : OnlyAssertions (Walk.clear n) :=
  taking.clear (edit n _)

/-- Putting a copy below an element stops for no fault. -/
lemma appendCopy (parent template : NodeId) : OnlyAssertions (Walk.appendCopy parent template) := by
  refine bind get fun s => ?_
  cases s.document.clone? template true with
  | none => exact missing _
  | some copied => exact bind (changes _) fun _ => bind (edit _ _) fun _ => pure _

/-- Nothing but the walks of the copies stops where an element is filled with copies. -/
lemma serveAll {walk : ElementWalk} (h : ∀ n scope isItem, OnlyAssertions (walk n scope isItem))
    (n : NodeId)
    (ordered : Bool) (servings : List (List (NodeId × Value))) :
    OnlyAssertions (Walk.serveAll walk n ordered servings) := by
  have hadvance : OnlyAssertions (advance ordered) := by
    cases ordered with
    | true => exact changes _
    | false => exact pure ()
  refine forM fun serving _ => bind hadvance fun _ => bind ?_ fun _ => forM fun _ _ => h _ _ _
  exact mapM fun copy => bind (appendCopy _ _) fun _ => pure _

/-! ## Operators -/

/-- Saying in which operator a fault arose does not change its class. -/
lemma inOperator {operator : Operator} {act : Walk α} (h : OnlyAssertions act) :
    OnlyAssertions (Walk.inOperator n operator operand act) := by
  intro s f s' e
  obtain ⟨stop, hact, hfault⟩ := inOperator_error e
  obtain ⟨-, g, rfl, hcause⟩ := hfault f rfl
  exact (congrArg Cause.faultClass hcause).trans (h hact)

/-- Under the policy for faults an operator stops the walk for an assertion only, as long as it can
be undone. -/
lemma guarded {operator : Operator} {undo : Walk Unit} {lacking abandoned : α} {act : Walk α}
    (hundo : OnlyAssertions undo) :
    OnlyAssertions (Walk.guarded n operator operand undo lacking abandoned act) := by
  intro s f s' e
  rcases hact : Walk.inOperator n operator operand act s with ⟨stop | a, t⟩
  · rw [Walk.guarded, run_tryCatch_of_error hact] at e
    cases stop with
    | missing m => exact missing m e
    | fault g =>
      dsimp only at e
      cases hclass : g.faultClass with
      | content =>
        rw [hclass] at e
        exact bind hundo (fun _ => bind (changes _) fun _ => pure _) e
      | assertion =>
        rw [hclass] at e
        exact throw hclass e
      | other =>
        rw [hclass] at e
        exact bind (bind (changes _) fun _ => changes _) (fun _ => pure _) e
  · rw [Walk.guarded, run_tryCatch_of_ok hact] at e
    cases e

/-- An operator that sets attributes is undone without a stop but for an assertion. -/
lemma undoAttribute (operator : AttributeOperator) : OnlyAssertions (operator.undo n operand) := by
  cases operator with
  | attributes =>
    exact bind (check fun _ => Clause.parse_class) fun _ => forM fun _ _ => putAttribute n _ _
  | classes =>
    refine bind (check fun _ => Clause.parse_class) fun _ => forM fun clause _ => ?_
    cases clause.value? with
    | some name => exact editNode n (Tree.removeClass name)
    | none => exact pure ()
  | named which => exact putAttribute n which.name none
  | value =>
    refine bind (node n) fun t => ?_
    cases t.hasTag valueTags with
    | true => exact putAttribute n "value" none
    | false => exact removeText n

/-- An operator that fills an element is undone without a stop but for an assertion. -/
lemma undoContent (operator : ContentOperator) : OnlyAssertions (operator.undo n) := by
  cases operator with
  | text => exact removeText n
  | numbering => exact removeText n
  | html => exact clear n
  | options => exact clear n
  | object => exact pure ()
  | list _ => exact bind (taking.itemTemplate n) fun _ => clear n
  | map _ => exact bind (taking.entryTemplates n) fun _ => clear n

/-! ## Whole walks -/

variable {c : Setting} {scope : Value}

/-- Directives that cannot be read are an assertion. -/
lemma directives (dialect : Dialect) (n : NodeId) : OnlyAssertions (Walk.directives dialect n) :=
  bind (node n) fun _ => check fun _ => Directives.ofAttrs_class

/-- The limit of the depth is an assertion. -/
lemma refuseDepth (n : NodeId) : OnlyAssertions (Walk.refuseDepth n : Walk α) :=
  bind get fun _ => bind (node n) fun _ => refuse rfl

/-- Walking what is below an element stops for assertions only if walking each element does. -/
lemma below {walk : NodeId → Walk Unit} (h : ∀ n, OnlyAssertions (walk n)) (n : NodeId) :
    OnlyAssertions (Walk.below walk n) :=
  bind (node n) fun _ => forM fun _ _ => h _

/-- Setting the attributes of an element stops for assertions only. -/
lemma decorate (ds : Directives) : OnlyAssertions (c.decorate n ds scope) := by
  refine bind (forM fun _ _ => guarded (undoAttribute _)) fun _ => ?_
  cases ds.conditional? with
  | none => exact pure true
  | some declared =>
    have hexecute : OnlyAssertions (declared.1.execute c n scope declared.2) := guarded (pure ())
    refine bind hexecute fun visibility => ?_
    cases visibility with
    | shown => exact bind (editNode n (·.setHidden false)) fun _ => pure true
    | hidden => exact bind (editNode n (·.setHidden true)) fun _ => pure false
    | abandoned => exact pure false

/-- Filling an element stops for assertions only if walking the elements that are put in does. -/
lemma fill {walk : ElementWalk} (h : ∀ n scope isItem, OnlyAssertions (walk n scope isItem))
    (ds : Directives) (isItem : Bool) : OnlyAssertions (c.fill walk n ds scope isItem) := by
  rw [Setting.fill_eq]
  have hoperator : OnlyAssertions (contentOperator n ds isItem) := by
    unfold contentOperator
    cases ds.content? with
    | some content => exact pure _
    | none =>
      cases isItem with
      | true => exact bind (node n) fun _ => pure _
      | false => exact pure none
  refine bind hoperator fun content? => bind ?_ fun inner? => ?_
  · cases content? with
    | none => exact pure _
    | some declared => exact guarded (undoContent declared.1)
  · cases inner? with
    | none => exact pure ()
    | some inner => exact below (fun m => h m inner false) n

/-- Running the operators of an element stops for assertions only if walking what is below does. -/
lemma injectDirectives {walk : ElementWalk}
    (h : ∀ n scope isItem, OnlyAssertions (walk n scope isItem))
    (ds : Directives) (isItem : Bool) : OnlyAssertions
    (c.injectDirectives walk n ds scope isItem) := by
  refine bind (bind get fun _ => pure _) fun target? => ?_
  cases target? with
  | some target => exact h target scope false
  | none =>
    dsimp only
    split
    · exact fill h ds isItem
    · refine bind (decorate ds) fun goesOn => ?_
      cases goesOn with
      | true => exact fill h ds isItem
      | false => exact pure ()

/-- Every fault that stops an injection is an assertion. -/
lemma inject (c : Setting) (room : Nat) (n : NodeId) (scope : Value) (isItem : Bool) :
    OnlyAssertions (c.inject room n scope isItem) := by
  induction room generalizing n scope isItem with
  | zero => exact refuseDepth n
  | succ room ih =>
    exact deeper (bind (directives _ n) fun ds => injectDirectives ih ds isItem)

/-- Every fault that stops the injection of a value into an element is an assertion. -/
lemma injectSubtree (c : Setting) (room : Nat) (n : NodeId) (scope : Value) :
    OnlyAssertions (c.injectSubtree room n scope) := by
  cases room with
  | zero => exact refuseDepth n
  | succ room =>
    refine deeper (bind (directives _ n) fun ds => bind (node n) fun t => ?_)
    exact bind (check fun _ => Directives.forSubtree_class) fun ds =>
      injectDirectives (inject c room) ds false

/-- Every fault that stops a reset is an assertion. -/
lemma reset (dialect : Dialect) (room : Nat) (n : NodeId) :
    OnlyAssertions (Walk.reset dialect room n) := by
  induction room generalizing n with
  | zero => exact refuseDepth n
  | succ room ih =>
    refine deeper (bind (directives _ n) fun ds => ?_)
    rw [resetDirectives_steps]
    refine bind (bind get fun _ => pure _) fun target? => ?_
    cases target? with
    | some target => exact ih target
    | none =>
      refine bind (forM fun _ _ => inOperator (undoAttribute _)) fun _ =>
        bind ?_ fun _ => bind ?_ fun _ => below ih n
      · unfold unhide
        split
        · exact editNode n (·.setHidden false)
        · exact pure ()
      · unfold unfill
        split
        · exact inOperator (undoContent _)
        · exact pure ()

end OnlyAssertions

end TreeTemplate.Walk
