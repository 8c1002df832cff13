import TreeTemplate.Proofs.Courses.Operators

/-!
# Kinds of walks and whole walks

A closed kind that holds what is done at any element, in any ordered list or map and at any depth
holds whole injections and resets, wherever jumps lead them.

Main statements:

* `HoldsWalks.inject`, `HoldsWalks.injectSubtree`, `HoldsWalks.reset` — whole walks.
-/

namespace TreeTemplate.Walk

variable {Q : (α : Type) → Walk α → Prop} {c : Setting} {scope : Value} {operand : String}

/-- Choosing the operator that fills an element is of the kind. -/
lemma ClosedAt.contentOperator {n : NodeId} (hQ : ClosedAt Q n) (ds : Directives) (isItem : Bool) :
    Q _ (Walk.contentOperator n ds isItem) := by
  unfold Walk.contentOperator
  split
  · exact hQ.pure _
  · split
    · exact hQ.bind hQ.node fun _ => hQ.pure _
    · exact hQ.pure _

/-- A closed kind that holds whole walks. -/
structure HoldsWalks (Q : (α : Type) → Walk α → Prop) : Prop where
  filling : ∀ n, Filling Q n
  appendCopy : ∀ parent template, Q NodeId (Walk.appendCopy parent template)
  deeper : ∀ {w : Walk Unit}, Q Unit w → Q Unit (Walk.deeper w)
  counting : ∀ (ordered : Bool) {γ : Type} (xs : List γ) {body : γ → Walk Unit},
    (∀ x, Q Unit (body x)) →
      Q Unit (Walk.counting ordered (xs.forM fun x => do advance ordered; body x))

namespace HoldsWalks

variable (hQ : HoldsWalks Q)
include hQ

/-- A kind that holds whole walks is closed under sequences. -/
lemma toBindClosed : BindClosed Q :=
  (hQ.filling ⟨0⟩).toBindClosed

/-- The copies for an item or an entry are put behind the others and walked. -/
lemma serve {walk : ElementWalk} (hwalk : ∀ n scope isItem, Q _ (walk n scope isItem))
    (n : NodeId) (serving : List (NodeId × Value)) : Q _ (Walk.serve walk n serving) := by
  have hcopies : Q _ (appendCopies n serving) := hQ.toBindClosed.mapM fun copy _ =>
    hQ.toBindClosed.bind (hQ.appendCopy _ _) fun _ => hQ.toBindClosed.pure _
  exact hQ.toBindClosed.bind hcopies fun _ => hQ.toBindClosed.forM fun _ _ => hwalk _ _ _

/-- An operator that fills an element is of the kind if walking what is filled in is. -/
lemma run {walk : ElementWalk} (hwalk : ∀ n scope isItem, Q _ (walk n scope isItem))
    (n : NodeId) (operator : ContentOperator) :
    Q _ (operator.run c walk n scope operand) := by
  cases h : operator.ordered? with
  | none => exact (hQ.filling n).toPlainFilling.run h
  | some ordered =>
    rw [ContentOperator.run_eq h]
    exact hQ.toBindClosed.bind ((hQ.filling n).toStocking.servings operator) fun servings =>
      hQ.toBindClosed.bind (hQ.counting ordered servings (hQ.serve hwalk n)) fun _ =>
        hQ.toBindClosed.pure _

/-- Walking what is below an element is of the kind if walking each element is. -/
lemma below {walk : NodeId → Walk Unit} (hwalk : ∀ n, Q _ (walk n)) (n : NodeId) :
    Q _ (Walk.below walk n) :=
  hQ.toBindClosed.bind (hQ.filling n).node fun _ => hQ.toBindClosed.forM fun _ _ => hwalk _

/-- Filling an element is of the kind if walking what is filled in is. -/
lemma fill {walk : ElementWalk} (hwalk : ∀ n scope isItem, Q _ (walk n scope isItem))
    (n : NodeId) (ds : Directives) (isItem : Bool) : Q _ (c.fill walk n ds scope isItem) := by
  rw [Setting.fill_eq]
  refine hQ.toBindClosed.bind ((hQ.filling n).toClosedAt.contentOperator ds isItem) fun content? =>
    hQ.toBindClosed.bind ?_ fun inner? => ?_
  · cases content? with
    | none => exact hQ.toBindClosed.pure _
    | some declared => exact (hQ.filling n).execute (hQ.run hwalk n _)
  · cases inner? with
    | none => exact hQ.toBindClosed.pure ()
    | some inner => exact hQ.below (fun m => hwalk m inner false) n

/-- Running the operators of an element is of the kind if walking what is below is. -/
lemma injectDirectives {walk : ElementWalk}
    (hwalk : ∀ n scope isItem, Q _ (walk n scope isItem)) (n : NodeId) (ds : Directives)
    (isItem : Bool) : Q _ (c.injectDirectives walk n ds scope isItem) := by
  refine hQ.toBindClosed.bind (hQ.toBindClosed.jumpTarget ds) fun target? => ?_
  cases target? with
  | some target => exact hwalk target scope false
  | none =>
    dsimp only
    split
    · exact hQ.fill hwalk n ds isItem
    · refine hQ.toBindClosed.bind ((hQ.filling n).decorate ds) fun goesOn => ?_
      cases goesOn with
      | true => exact hQ.fill hwalk n ds isItem
      | false => exact hQ.toBindClosed.pure ()

/-- Injecting a scope into an element runs what every step of it runs. -/
lemma inject (c : Setting) (room : Nat) (n : NodeId) (scope : Value) (isItem : Bool) :
    Q _ (c.inject room n scope isItem) := by
  induction room generalizing n scope isItem with
  | zero => exact (hQ.filling n).toClosedAt.refuseDepth
  | succ room ih =>
    exact hQ.deeper (hQ.toBindClosed.bind ((hQ.filling n).toClosedAt.directives _) fun ds =>
      hQ.injectDirectives ih n ds isItem)

/-- Injecting into an element by itself is of the kind. -/
lemma injectSubtree (c : Setting) (room : Nat) (n : NodeId) (scope : Value) :
    Q _ (c.injectSubtree room n scope) := by
  cases room with
  | zero => exact (hQ.filling n).toClosedAt.refuseDepth
  | succ room =>
    refine hQ.deeper (hQ.toBindClosed.bind ((hQ.filling n).toClosedAt.directives _) fun ds => ?_)
    refine hQ.toBindClosed.bind (hQ.filling n).node fun t => ?_
    exact hQ.toBindClosed.bind (hQ.toBindClosed.check _) fun ds =>
      hQ.injectDirectives (hQ.inject c room) n ds false

/-- Resetting an element runs what every step of it runs. -/
lemma reset (dialect : Dialect) (room : Nat) (n : NodeId) : Q _ (Walk.reset dialect room n) := by
  induction room generalizing n with
  | zero => exact (hQ.filling n).toClosedAt.refuseDepth
  | succ room ih =>
    refine hQ.deeper (hQ.toBindClosed.bind ((hQ.filling n).toClosedAt.directives _) fun ds => ?_)
    rw [resetDirectives_steps]
    refine hQ.toBindClosed.bind (hQ.toBindClosed.jumpTarget ds) fun target? => ?_
    cases target? with
    | some target => exact ih target
    | none =>
      refine hQ.toBindClosed.bind ((hQ.filling n).undoAttributes ds) fun _ => ?_
      refine hQ.toBindClosed.bind ((hQ.filling n).unhide ds) fun _ => ?_
      exact hQ.toBindClosed.bind ((hQ.filling n).toClosedAt.unfill (hQ.filling n).undoContent ds)
        fun _ => hQ.below ih n

end HoldsWalks

end TreeTemplate.Walk
