import TreeTemplate.Proofs.Stocked.Element

/-!
# Refills

What operators do to the nodes directly below an element, as long as they make no copies: these
stay as they are, or the texts are removed, or given nodes come in the place of everything.

Main statements:

* `apply_andThen` — two refills one after another are one;
* `apply_again` — doing the same twice is doing it once.
-/

namespace TreeTemplate

/-- What becomes of the nodes directly below an element. -/
inductive Refill where
  | keep
  | dropTexts
  | put (ts : List (Stocked Unit))

namespace Refill

variable {ts us : List (Stocked Unit)} {r g : Refill}

/-- Carries out a refill. -/
def apply : Refill → List (Stocked Unit) → List (Stocked Unit)
  | keep, ts => ts
  | dropTexts, ts => ts.filter Stocked.isElement
  | put us, _ => us

/-- A refill puts no elements. -/
def Textual : Refill → Prop
  | put us => us.filter Stocked.isElement = []
  | _ => True

/-- Whether a refill leaves nothing of what was there. -/
def Replaces : Refill → Prop
  | put _ => True
  | _ => False

/-- One refill after another. -/
def andThen (r : Refill) : Refill → Refill
  | keep => r
  | dropTexts =>
    match r with
    | put us => put (us.filter Stocked.isElement)
    | _ => dropTexts
  | put us => put us

/-- Two refills one after another are one. -/
lemma apply_andThen (r g : Refill) (ts : List (Stocked Unit)) :
    (r.andThen g).apply ts = g.apply (r.apply ts) := by
  cases g with
  | keep => rfl
  | put us => rfl
  | dropTexts =>
    cases r with
    | keep => rfl
    | put us => rfl
    | dropTexts => simp [andThen, apply]

/-- Two refills that put no elements put none one after the other. -/
lemma Textual.andThen (hr : r.Textual) (hg : g.Textual) : (r.andThen g).Textual := by
  cases g with
  | keep => exact hr
  | put us => exact hg
  | dropTexts =>
    cases r with
    | keep => trivial
    | dropTexts => trivial
    | put us => simpa [Textual, Refill.andThen] using hr

/-- A refill that puts no elements leaves nodes that were there, and texts. -/
lemma Textual.mem (hg : g.Textual) {t : Stocked Unit} (ht : t ∈ g.apply ts) :
    t ∈ ts ∨ t.isElement = false := by
  cases g with
  | keep => exact .inl ht
  | dropTexts => exact .inl (List.mem_filter.1 ht).1
  | put us =>
    have hnone : us.filter Stocked.isElement = [] := hg
    right
    simpa using List.filter_eq_nil_iff.1 hnone t ht

/-- A refill that puts no elements leaves no others than were there. -/
lemma Textual.elements (hg : g.Textual) {t : Stocked Unit} (ht : t ∈ g.apply ts)
    (helement : t.isElement = true) : t ∈ ts := by
  rcases hg.mem ht with hmem | htext
  · exact hmem
  · rw [helement] at htext
    cases htext

/-- Doing the same twice is doing it once. -/
lemma apply_again (hg : g.Textual) (r : Refill) (ts : List (Stocked Unit)) :
    r.apply (g.apply (r.apply (g.apply ts))) = r.apply (g.apply ts) := by
  cases r with
  | put us => rfl
  | keep =>
    cases g with
    | keep => rfl
    | dropTexts => simp [apply]
    | put us => rfl
  | dropTexts =>
    cases g with
    | keep => simp [apply]
    | dropTexts => simp [apply]
    | put us =>
      -- what is put has no elements, so nothing is left to be walked again
      have hus : us.filter Stocked.isElement = [] := hg
      simp [apply, hus]

end Refill

end TreeTemplate
