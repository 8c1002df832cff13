import TreeTemplate.Proofs.Follow.Run

/-!
# Kinds of walks that take nodes away

Templates are taken out of elements, and they are removed where nothing needs them any longer. Both
only look at the tree, take nodes out of it, and stop where the templates are not declared as they
have to be. Which kinds of walks this is of can so be told from a few steps.

Main statements:

* `Taking.itemTemplate`, `Taking.entryTemplates` — templates are taken out of an element;
* `Forgetting.forgetBelow` — templates are removed.
-/

namespace TreeTemplate

/-- The cause lies in what was to be read: the model lacks it, or the scope cannot have it. -/
def Cause.OfReading (cause : Cause) : Prop :=
  cause.faultClass = .content ∨ ∃ path found, cause = .scalarScope path found

namespace Walk

variable {Q : (α : Type) → Walk α → Prop} {α β γ : Type}

/-- A kind of walks that holds those that look at the state, those that stop for a node which is
gone, those that remove nodes or change the stash, and such walks one after another. -/
structure Forgetting (Q : (α : Type) → Walk α → Prop) : Prop where
  pure : ∀ {α : Type} (a : α), Q α (Pure.pure a)
  bind : ∀ {α β : Type} {w : Walk α} {f : α → Walk β}, Q α w → (∀ a, Q β (f a)) → Q β (w >>= f)
  get : Q State MonadState.get
  missing : ∀ {α : Type} (n : NodeId), Q α (MonadExcept.throw (.missing n))
  setStash : ∀ f : Stash → Stash, Q Unit (modify fun s => { s with stash := f s.stash })
  remove : ∀ n, Q Unit (Walk.remove n)

/-- Such a kind that holds as well what takes nodes out of the tree, and what stops for an element
that is declared wrongly. -/
structure Taking (Q : (α : Type) → Walk α → Prop) : Prop extends Forgetting Q where
  refuse : ∀ {α : Type} {cause : Cause}, cause.faultClass = .assertion → ¬ cause.OfReading →
    Q α (Walk.refuse cause)
  detach : ∀ n, Q Unit (edit n fun n d => d.detach? n)

/-- A template that is not there, or not of the right kind, is no matter of reading. -/
lemma not_ofReading {cause : Cause} (hclass : cause.faultClass = .assertion)
    (h : ∀ path found, cause ≠ .scalarScope path found) : ¬ cause.OfReading := by
  rintro (hcontent | ⟨path, found, e⟩)
  · rw [hclass] at hcontent
    cases hcontent
  · exact h path found e

namespace Forgetting

variable (hQ : Forgetting Q)
include hQ

/-- Walks of a kind one after another are of the kind. -/
lemma forM {xs : List γ} {f : γ → Walk Unit} (h : ∀ x ∈ xs, Q Unit (f x)) :
    Q Unit (xs.forM f) :=
  forM_of_each (hQ.pure ()) (fun hw hv => hQ.bind hw fun _ => hv) h

/-- Looking for a node is of the kind. -/
lemma node (n : NodeId) : Q (Tree NodeId) (Walk.node n) := by
  refine hQ.bind hQ.get fun s => ?_
  cases s.document.find? n with
  | some t => exact hQ.pure t
  | none => exact hQ.missing n

/-- Taking what is stashed for a node out of the stash is of the kind. -/
lemma takeStored (n : NodeId) : Q _ (Walk.takeStored n) := by
  refine hQ.bind hQ.get fun s => ?_
  cases s.stash.take? n with
  | none => exact hQ.pure none
  | some taken => exact hQ.bind (hQ.setStash fun _ => taken.2) fun _ => hQ.pure _

/-- Forgetting the templates of a node and of what is below it is of the kind. -/
lemma forgetWithin (room : Nat) (n : NodeId) : Q _ (Walk.forgetWithin room n) := by
  induction room generalizing n with
  | zero => exact hQ.pure ()
  | succ room ih =>
    refine hQ.bind hQ.get fun s => ?_
    cases s.stash.isEmpty with
    | true => exact hQ.pure ()
    | false =>
      refine hQ.bind (hQ.node n) fun t => ?_
      refine hQ.forM fun element _ => hQ.bind (hQ.takeStored element) fun stored? => ?_
      cases stored? with
      | none => exact hQ.pure ()
      | some stored =>
        exact hQ.bind (hQ.forM fun template _ => ih template) fun _ =>
          hQ.forM fun template _ => hQ.remove template

/-- The templates stashed for what is below an element are forgotten. -/
lemma forgetBelow (n : NodeId) : Q _ (Walk.forgetBelow n) :=
  hQ.bind hQ.get fun _ => hQ.forgetWithin _ n

/-- Clearing an element is of the kind if it is of the kind to remove what is below one. -/
lemma clear {n : NodeId} (h : Q Unit (edit n fun n d => d.removeChildren? n)) :
    Q _ (Walk.clear n) :=
  hQ.bind (hQ.forgetBelow n) fun _ => h

end Forgetting

namespace Taking

variable (hQ : Taking Q)
include hQ

/-- Stashing templates for an element is of the kind. -/
lemma stashTemplates (n : NodeId) (stored : Stored) : Q _ (Walk.stashTemplates n stored) :=
  hQ.bind (hQ.forM fun template _ => hQ.detach template) fun _ => hQ.setStash (·.insert n stored)

/-- Taking the template of a list is of the kind. -/
lemma itemTemplate (n : NodeId) : Q _ (Walk.itemTemplate n) := by
  refine hQ.bind hQ.get fun s => ?_
  cases s.stash.find? n with
  | some stored =>
    cases stored with
    | item template => exact hQ.pure template
    | entry key value => exact hQ.refuse rfl (not_ofReading rfl nofun)
  | none =>
    refine hQ.bind (hQ.node n) fun t => ?_
    cases t.elements with
    | nil => exact hQ.refuse rfl (not_ofReading rfl nofun)
    | cons template later => exact hQ.bind (hQ.stashTemplates _ _) fun _ => hQ.pure _

/-- Taking the templates of a map is of the kind. -/
lemma entryTemplates (n : NodeId) : Q _ (Walk.entryTemplates n) := by
  refine hQ.bind hQ.get fun s => ?_
  cases s.stash.find? n with
  | some stored =>
    cases stored with
    | item template => exact hQ.refuse rfl (not_ofReading rfl nofun)
    | entry key value => exact hQ.pure (key, value)
  | none =>
    refine hQ.bind (hQ.node n) fun t => ?_
    match t.elements with
    | [] => exact hQ.refuse rfl (not_ofReading rfl nofun)
    | [_] => exact hQ.refuse rfl (not_ofReading rfl nofun)
    | _ :: _ :: _ => exact hQ.bind (hQ.stashTemplates _ _) fun _ => hQ.pure _

end Taking

end Walk

end TreeTemplate
