import TreeTemplate.Proofs.Documents.Elements
import TreeTemplate.Proofs.Follow.Spots

/-!
# Calls of a template

A template is called again and again: models are injected, values are injected into single elements,
and all of it is reset. A call may fail; what it did before stays done.

Main statements:

* `Template.HoldsStocked.afterCalls` — what calls that begin at the element of a template keep of
  it.
-/

namespace TreeTemplate

open Stocked (at? put)

/-- A call of a template. -/
inductive Call where
  | inject (model : Value)
  | reset
  | injectElement (n : NodeId) (value : Value)
  | resetElement (n : NodeId)

namespace Call

/-- What a call leads to. -/
def run (e : Engine) (t : Template) (d : Document) : Call → Outcome (List Fault)
  | inject model => t.inject e d model
  | reset => t.reset e d
  | injectElement n value => t.injectElement e d n value
  | resetElement n => t.resetElement e d n

/-- Whether a call begins at the element of the template. -/
def isWhole : Call → Bool
  | inject _ | reset => true
  | injectElement _ _ | resetElement _ => false

end Call

/-- What calls one after another leave of a template and its document. -/
def Template.afterCalls (e : Engine) (t : Template) (d : Document) :
    List Call → Template × Document
  | [] => (t, d)
  | call :: calls =>
    let left := call.run e t d
    afterCalls e left.template left.document calls

namespace Template

variable {t : Template} {d : Document} {T : Stocked NodeId} {p : List Nat} {x : Element NodeId}
  {P : Element Unit} {e : Engine} {R : Element Unit → Prop}

/-- Null is not injected. -/
lemma inject_of_isNull {m : Value} (hm : m.isNull = true) :
    t.inject e d m = t.unchanged d (.error (.fault ⟨.nullModel, none⟩)) := by
  unfold inject
  rw [hm, if_pos rfl]

/-- What injections and resets keep of an element in order holds after calls of them for
the template of the element, which stays where it is. -/
lemma HoldsStocked.afterCalls (h : t.HoldsStocked d T) (hx : at? p T = some (x.labelled t.root))
    (hR : R x.bare)
    (hintact : ∀ P, R P → P.whole.TemplatesIntact e.dialect)
    (hinject : ∀ m, Local.Keeps R (Local.inject ⟨e, m⟩ e.maxDepth 0 [] m false))
    (hreset : Local.Keeps R (Local.reset e.dialect e.maxDepth 0)) {calls : List Call}
    (hcalls : ∀ call ∈ calls, call.isWhole) :
    let left := t.afterCalls e d calls
    left.1.root = t.root ∧ ∃ (T' : Stocked NodeId) (y : Element NodeId),
      left.1.HoldsStocked left.2 T' ∧
      at? p T' = some (y.labelled t.root) ∧ R y.bare := by
  induction calls generalizing t d T x with
  | nil => exact ⟨rfl, T, x, h, hx, hR⟩
  | cons call calls ih =>
    have hlater : ∀ call ∈ calls, call.isWhole := fun call hc =>
      hcalls _ (List.mem_cons_of_mem _ hc)
    -- a walk leaves an element at the spot with what the action for it makes of it
    have hrun {walk : Walk Unit} {act : Local (Element Unit) Unit} (hkeeps : Local.Keeps R act)
        (hwalk : ∀ {s : Walk.State} {φ : Frame}, Holds s ⟨t.root, [], 0⟩ φ x →
          Reaches s (Shows ⟨t.root, [], 0⟩ φ) (walk s) (act x.bare)) :
        let left := (t.run d walk).template.afterCalls e (t.run d walk).document calls
        left.1.root = t.root ∧ ∃ (T' : Stocked NodeId) (y : Element NodeId),
          left.1.HoldsStocked left.2 T' ∧
          at? p T' = some (y.labelled t.root) ∧ R y.bare := by
      obtain ⟨y, hy, -, hleft⟩ := h.run hx hwalk
      exact ih (t := (t.run d walk).template) hleft (Stocked.at?_put_self hx)
        (hy ▸ hkeeps x.bare hR) hlater
    cases call with
    | inject m =>
      simp only [Template.afterCalls, Call.run]
      cases hm : m.isNull with
      | true =>
        rw [inject_of_isNull hm]
        exact ih h hx hR hlater
      | false =>
        have hmodel : t.inject e d m =
            t.run d (Setting.inject ⟨e, m⟩ e.maxDepth t.root m false) := by
          simp only [Template.inject, hm, Bool.false_eq_true, if_false]
        rw [hmodel]
        exact hrun (hinject m) fun hholds =>
          inject_follows ⟨e, m⟩ e.maxDepth 0 m false rfl (hintact _ hR).entered hholds
    | reset =>
      exact hrun hreset fun hholds => reset_follows e.maxDepth 0 rfl (hintact _ hR).entered hholds
    | injectElement n value => cases hcalls _ List.mem_cons_self
    | resetElement n => cases hcalls _ List.mem_cons_self

/-- What injections and resets keep of a document in order holds after calls of them. -/
lemma Presents.afterCalls (h : t.Presents d P) (hP : R P)
    (hintact : ∀ P, R P → P.whole.TemplatesIntact e.dialect)
    (hinject : ∀ m, Local.Keeps R (Local.inject ⟨e, m⟩ e.maxDepth 0 [] m false))
    (hreset : Local.Keeps R (Local.reset e.dialect e.maxDepth 0)) {calls : List Call}
    (hcalls : ∀ call ∈ calls, call.isWhole) : ∃ Q,
    (t.afterCalls e d calls).1.Presents (t.afterCalls e d calls).2 Q ∧ R Q := by
  obtain ⟨hroot, Q, rfl, hholds⟩ := h
  have hstocked : t.HoldsStocked d (Q.labelled t.root) :=
    ⟨hroot, holdsTree_labelled.2 (hroot ▸ hholds)⟩
  obtain ⟨hsame, T, y, hleft, hy, hR⟩ :=
    hstocked.afterCalls (p := []) rfl hP hintact hinject hreset hcalls
  obtain rfl := Option.some.inj hy
  have hholds' := holdsTree_labelled.1 hleft.2
  rw [hroot] at hholds'
  exact ⟨y.bare, ⟨hsame.trans hroot, y, rfl, hholds'⟩, hR⟩

end Template

end TreeTemplate
