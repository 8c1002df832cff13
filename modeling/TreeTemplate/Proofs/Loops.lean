import Mathlib.Tactic.Lemma

/-!
# Loops over lists

What holds of an action that does nothing, and of one action after another, holds of an action that
is run for each entry of a list. The actions may be of any monad, and they may be compared with
those of another one.

Main statements:

* `forM_of_each` — a property of actions;
* `forM_of_pairs` — a relation between actions.
-/

namespace TreeTemplate

variable {m n : Type → Type} [Monad m] [Monad n] {γ : Type} {xs : List γ}

/-- Loops over one list are related if what is done for each entry is. -/
lemma forM_of_pairs {R : m Unit → n Unit → Prop} {f : γ → m Unit} {g : γ → n Unit}
    (hpure : R (pure ()) (pure ()))
    (hbind : ∀ {w w' : m Unit} {v v' : n Unit}, R w v → R w' v' →
      R (w >>= fun _ => w') (v >>= fun _ => v'))
    (h : ∀ x ∈ xs, R (f x) (g x)) : R (xs.forM f) (xs.forM g) := by
  induction xs with
  | nil => exact hpure
  | cons x xs ih =>
    exact hbind (h x List.mem_cons_self) (ih fun y hy => h y (List.mem_cons_of_mem _ hy))

/-- A loop has a property if what is done for each entry has it. -/
lemma forM_of_each {Q : m Unit → Prop} {f : γ → m Unit} (hpure : Q (pure ()))
    (hbind : ∀ {w w' : m Unit}, Q w → Q w' → Q (w >>= fun _ => w'))
    (h : ∀ x ∈ xs, Q (f x)) : Q (xs.forM f) :=
  forM_of_pairs (R := fun w (_ : m Unit) => Q w) (g := f) hpure (fun hw hv => hbind hw hv) h

end TreeTemplate
