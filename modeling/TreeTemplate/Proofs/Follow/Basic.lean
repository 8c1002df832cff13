import TreeTemplate.Proofs.Follow.Forget
import TreeTemplate.Proofs.Local.Basic

/-!
# Walks that follow local actions

A walk follows a local action at a place when it does to the element there, and to nothing else,
what the action does: it succeeds or stops as the action does, it records what the action notes and
reports what is of the class for which a branch is given up, and it leaves the positions and the
depth as they were.

Main statements:

* `Reaches.andThen` — what a walk and an action after another one reach;
* `Follows.bind`, `Follows.forM` — one after another.
-/

namespace TreeTemplate

variable {α β : Type} {here : Place} {φ : Frame} {s s' : Walk.State} {P : Element NodeId}
  {operator : Operator} {operand : String}

/-- What a walk led to from a state is what a local action yields, where `shows` relates what a
part of a tree has become to the state. -/
structure Reaches {σ : Type} (s : Walk.State) (shows : σ → Walk.State → Prop)
    (left : Except Stop α × Walk.State) (yield : Yield σ α) : Prop where
  result : left.1 = yield.result.mapError Stop.fault
  diagnostics : left.2.diagnostics = s.diagnostics ++ yield.notes
  reported : left.2.reported =
    s.reported ++ yield.notes.filter fun f => f.faultClass == .other
  shows : shows yield.state left.2

/-- A state holds an element that looks as given without its labels. -/
def Shows (here : Place) (φ : Frame) (Q : Element Unit) (s : Walk.State) : Prop :=
  ∃ P : Element NodeId, P.bare = Q ∧ Holds s here φ P

/-- A walk follows a local action on every element with a property. -/
def Follows (here : Place) (φ : Frame) (I : Element Unit → Prop) (walk : Walk α)
    (act : Local (Element Unit) α) : Prop :=
  ∀ ⦃s : Walk.State⦄ ⦃P : Element NodeId⦄, I P.bare → Holds s here φ P →
    Reaches s (Shows here φ) (walk s) (act P.bare)

namespace Reaches

section General

variable {σ : Type} {shows shows' : σ → Walk.State → Prop}

/-- A walk that reaches what an action leaves succeeds with its answer. -/
lemma of_ok {left : Except Stop α × Walk.State} {a : α} {q : σ} {notes : List Fault}
    (h : Reaches s shows left ⟨.ok a, q, notes⟩) : left = (.ok a, left.2) :=
  Prod.ext h.result rfl

/-- A walk that reaches what an action leaves stops for its fault. -/
lemma of_error {left : Except Stop α × Walk.State} {f : Fault} {q : σ}
    {notes : List Fault} (h : Reaches s shows left ⟨.error f, q, notes⟩) :
    left = (.error (.fault f), left.2) :=
  Prod.ext h.result rfl

/-- What is reached from a state that was reached is reached from the first one. -/
lemma trans {τ : Type} {shows' : τ → Walk.State → Prop} {left : Except Stop α × Walk.State}
    {left' : Except Stop β × Walk.State} {yield : Yield σ α} {yield' : Yield τ β}
    (h : Reaches s shows left yield) (h' : Reaches left.2 shows' left' yield') :
    Reaches s shows' left' ⟨yield'.result, yield'.state, yield.notes ++ yield'.notes⟩ := by
  refine ⟨h'.result, ?_, ?_, h'.shows⟩
  · rw [h'.diagnostics, h.diagnostics, List.append_assoc]
  · rw [h'.reported, h.reported, List.filter_append, List.append_assoc]

/-- Only what was recorded and reported counts of the state that something is reached from. -/
lemma congr {left : Except Stop α × Walk.State} {yield : Yield σ α}
    (h : Reaches s' shows left yield) (hd : s'.diagnostics = s.diagnostics)
    (hr : s'.reported = s.reported) : Reaches s shows left yield :=
  ⟨h.result, hd ▸ h.diagnostics, hr ▸ h.reported, h.shows⟩

/-- A walk after another one. Where the first one stops, what it shows has to do. -/
lemma andThen {w : Walk α} {l : Local σ α} {f : α → Walk β} {g : α → Local σ β} {p : σ}
    (h : Reaches s shows (w s) (l p)) (hstop : ∀ s', shows (l p).state s' → shows' (l p).state s')
    (hf : ∀ {a : α} {s' : Walk.State}, (l p).result = .ok a → shows (l p).state s' →
      Reaches s' shows' (f a s') (g a (l p).state)) :
    Reaches s shows' ((w >>= f) s) ((l >>= g) p) := by
  rcases e : l p with ⟨e | a, q, notes⟩
  · rw [Local.bind_of_error e]
    rw [e] at h hstop
    rw [Walk.run_bind_of_error h.of_error]
    exact ⟨rfl, h.diagnostics, h.reported, hstop _ h.shows⟩
  · rw [Local.bind_of_ok e]
    rw [e] at h hf
    rw [Walk.run_bind_of_ok h.of_ok]
    exact h.trans (hf rfl h.shows)

end General

/-- A walk that changes neither positions, depth nor what was recorded. -/
lemma of_holds {left : Walk.State} {Q : Element NodeId} (result : Except Fault α)
    (hd : left.diagnostics = s.diagnostics) (hr : left.reported = s.reported)
    (h : Holds left here φ Q) :
    Reaches s (Shows here φ) (result.mapError Stop.fault, left) ⟨result, Q.bare, []⟩ :=
  ⟨rfl, by rw [hd, List.append_nil], by rw [hr]; exact (List.append_nil _).symm, Q, rfl, h⟩

/-- A walk that gives an answer reaches what the action leaves that gives it. -/
lemma pure (h : Holds s here φ P) (a : α) :
    Reaches s (Shows here φ) ((Pure.pure a : Walk α) s) ⟨.ok a, P.bare, []⟩ :=
  of_holds (.ok a) rfl rfl h

/-- A walk that stops reaches what the action leaves that stops. -/
lemma fail (h : Holds s here φ P) (f : Fault) :
    Reaches s (Shows here φ) ((throw (.fault f) : Walk α) s) ⟨.error f, P.bare, []⟩ :=
  of_holds (.error f) rfl rfl h

/-- A walk after another one at the same place. -/
lemma bind {w : Walk α} {l : Local (Element Unit) α} {f : α → Walk β}
    {g : α → Local (Element Unit) β} {P : Element Unit} (h : Reaches s (Shows here φ) (w s) (l P))
    (hf : ∀ {a : α} {s' : Walk.State} {Q : Element NodeId}, (l P).result = .ok a →
      Q.bare = (l P).state → Holds s' here φ Q →
      Reaches s' (Shows here φ) (f a s') (g a Q.bare)) :
    Reaches s (Shows here φ) ((w >>= f) s) ((l >>= g) P) :=
  h.andThen (fun _ h => h) fun ha hshows => by
    obtain ⟨Q, hQ, hholds⟩ := hshows
    rw [← hQ]
    exact hf ha hQ hholds

end Reaches

namespace Follows

variable {I : Element Unit → Prop}

/-- A walk that gives an answer follows the action that gives it. -/
lemma pure (a : α) : Follows here φ I (Pure.pure a) (Pure.pure a) :=
  fun _ _ _ h => Reaches.pure h a

/-- A walk that stops for a cause follows the action that stops for it. -/
lemma refuse (cause : Cause) :
    Follows here φ I (Walk.refuse cause : Walk α) (Local.refuse cause) :=
  fun _ _ _ h => Reaches.fail h ⟨cause, none⟩

/-- A check of a walk follows that of an action. -/
lemma check (e : Except Cause α) : Follows here φ I (Walk.check e) (Local.check e) := by
  cases e with
  | ok a => exact pure a
  | error cause => exact refuse cause

/-- Reading an operand in a walk follows doing so in an action. -/
lemma checkOperand (e : Except OperandError α) :
    Follows here φ I (Walk.checkOperand e) (Local.checkOperand e) := by
  cases e with
  | ok a => exact pure a
  | error error => exact refuse _

/-- Walks one after another follow actions one after another. -/
lemma bind {w : Walk α} {l : Local (Element Unit) α} {f : α → Walk β}
    {g : α → Local (Element Unit) β}
    (h : Follows here φ I w l) (hl : Local.Keeps I l)
    (hf : ∀ a, Follows here φ I (f a) (g a)) : Follows here φ I (w >>= f) (l >>= g) :=
  fun _ _ hI hP => (h hI hP).bind fun {a} {_} {_} _ hQ hholds =>
    hf a (hQ ▸ hl _ hI) hholds

/-- Walks for several things follow actions for them. -/
lemma forM {γ : Type} {xs : List γ} {f : γ → Walk Unit} {g : γ → Local (Element Unit) Unit}
    (h : ∀ x ∈ xs, Follows here φ I (f x) (g x)) (hg : ∀ x ∈ xs, Local.Keeps I (g x)) :
    Follows here φ I (xs.forM f) (xs.forM g) := by
  induction xs with
  | nil => exact pure ()
  | cons x xs ih =>
    exact bind (h x List.mem_cons_self) (hg x List.mem_cons_self) fun _ =>
      ih (fun y hy => h y (List.mem_cons_of_mem _ hy))
        (fun y hy => hg y (List.mem_cons_of_mem _ hy))

end Follows

end TreeTemplate
