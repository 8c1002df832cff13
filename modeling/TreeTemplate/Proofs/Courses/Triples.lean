import TreeTemplate.Proofs.Courses.OnlyAssertions

/-!
# What walks lead to

A walk that begins where one property holds ends where another one does. Where it ends by a stop,
the property may be weaker: it is what the policy for faults begins with.

Main statements:

* `Leads.bind`, `Leads.forM`, `Leads.mapM` — walks one after another;
* `Leads.guarded` — an operator under the policy for faults.
-/

namespace TreeTemplate.Walk

variable {α β γ : Type} {p p' : State → Prop} {ok ok' : α → State → Prop}
  {stopped stopped' : Stop → State → Prop} {w : Walk α}

/-- From where one property holds a walk leads to where another one does, which is about what the
walk finds, or it stops where a third one holds. -/
def Leads (p : State → Prop) (w : Walk α) (ok : α → State → Prop)
    (stopped : Stop → State → Prop) : Prop :=
  ∀ s, p s →
    match w s with
    | (.ok a, s') => ok a s'
    | (.error stop, s') => stopped stop s'

namespace Leads

/-- A walk that succeeds leads to where it leads. -/
lemma of_ok {s s' : State} {a : α} (h : Leads p w ok stopped) (hs : p s) (e : w s = (.ok a, s')) :
    ok a s' :=
  (e ▸ h s hs :)

/-- A walk that stops does so where it may. -/
lemma of_error {s s' : State} {stop : Stop} (h : Leads p w ok stopped) (hs : p s)
    (e : w s = (.error stop, s')) : stopped stop s' :=
  (e ▸ h s hs :)

/-- It is enough to look at where the walk succeeds and where it stops. -/
lemma intro (hok : ∀ s a s', p s → w s = (.ok a, s') → ok a s')
    (hstopped : ∀ s stop s', p s → w s = (.error stop, s') → stopped stop s') :
    Leads p w ok stopped := by
  intro s hs
  rcases e : w s with ⟨stop | a, s'⟩
  · exact hstopped s stop s' hs e
  · exact hok s a s' hs e

/-- A property that a walk keeps holds however it ends. -/
lemma of_keeping (h : Runs (Keeping p) α w) : Leads p w (fun _ => p) fun _ => p :=
  intro (fun _ _ _ hs e => h.of_ok e hs) fun _ _ _ hs e => h.of_error e hs

/-- Where the same property holds however a walk ends, it holds of the state that is left. -/
lemma state {q : State → Prop} (h : Leads p w (fun _ => q) fun _ => q) {s : State} (hs : p s) :
    q (w s).2 := by
  rcases e : w s with ⟨stop | a, s'⟩
  · exact h.of_error hs e
  · exact h.of_ok hs e

/-- A walk leads from less to more. -/
lemma mono (h : Leads p w ok stopped) (hp : ∀ s, p' s → p s) (hok : ∀ a s, ok a s → ok' a s)
    (hstopped : ∀ stop s, stopped stop s → stopped' stop s) : Leads p' w ok' stopped' :=
  intro (fun s a s' hs e => hok a s' (h.of_ok (hp s hs) e))
    fun s stop s' hs e => hstopped stop s' (h.of_error (hp s hs) e)

/-- An answer leads to where it holds. -/
lemma pure {a : α} (h : ∀ s, p s → ok a s) : Leads p (Pure.pure a) ok stopped :=
  h

/-- Walks one after another lead from where the first begins to where the second leads. -/
lemma bind {f : α → Walk β} {ok' : β → State → Prop} (h : Leads p w ok stopped)
    (hf : ∀ a, Leads (ok a) (f a) ok' stopped) : Leads p (w >>= f) ok' stopped := by
  intro s hs
  rcases e : w s with ⟨stop | a, s'⟩
  · rw [run_bind_of_error e]
    exact h.of_error hs e
  · rw [run_bind_of_ok e]
    exact hf a s' (h.of_ok hs e)

/-- A loop goes from what holds with some elements to do to what holds with none. -/
lemma forM (todo : List γ → State → Prop) {f : γ → Walk Unit} (xs : List γ)
    (h : ∀ x xs, Leads (todo (x :: xs)) (f x) (fun _ => todo xs) stopped) :
    Leads (todo xs) (xs.forM f) (fun _ => todo []) stopped := by
  induction xs with
  | nil => exact fun _ hs => hs
  | cons x xs ih =>
    show Leads _ (f x >>= fun _ => xs.forM f) _ _
    exact (h x xs).bind fun _ => ih

/-- What is found for some elements one after another is put behind what was found before. -/
lemma mapM (done : List β → State → Prop) {f : γ → Walk β} (xs : List γ)
    (h : ∀ x ∈ xs, ∀ ys, Leads (done ys) (f x) (fun y => done (ys ++ [y])) stopped) :
    ∀ ys, Leads (done ys) (xs.mapM f) (fun found => done (ys ++ found)) stopped := by
  induction xs with
  | nil =>
    intro ys s hs
    show done (ys ++ []) s
    rwa [List.append_nil]
  | cons x xs ih =>
    intro ys
    rw [List.mapM_cons]
    refine (h x List.mem_cons_self ys).bind fun y =>
      (ih (fun x hx => h x (List.mem_cons_of_mem _ hx)) (ys ++ [y])).bind fun found s hs => ?_
    rw [List.append_assoc] at hs
    exact hs

/-- The depth does not count for what is about the document and the stash. -/
lemma deeper {q : State → Prop} {w : Walk Unit} (hp : OfForest p) (hq : OfForest q)
    (h : Leads p w (fun _ => q) fun _ => q) : Leads p (Walk.deeper w) (fun _ => q) fun _ => q := by
  intro s hs
  have hleft := h.state (hp s { s with depth := s.depth + 1 } rfl rfl hs)
  rcases e : w { s with depth := s.depth + 1 } with ⟨stop | _, s'⟩
  · simp only [Walk.deeper, e] at hleft ⊢
    exact hq s' _ rfl rfl hleft
  · simp only [Walk.deeper, e] at hleft ⊢
    exact hq s' _ rfl rfl hleft

/-- Neither do the positions. -/
lemma counting {q : State → Prop} {w : Walk Unit} (hp : OfForest p) (hq : OfForest q)
    (h : Leads p w (fun _ => q) fun _ => q) (ordered : Bool) :
    Leads p (Walk.counting ordered w) (fun _ => q) fun _ => q := by
  cases ordered with
  | false => exact h
  | true =>
    intro s hs
    have hleft := h.state (hp s { s with positions := 0 :: s.positions } rfl rfl hs)
    rcases e : w { s with positions := 0 :: s.positions } with ⟨stop | _, s'⟩
    · simp only [Walk.counting, if_true, e] at hleft ⊢
      exact hq s' _ rfl rfl hleft
    · simp only [Walk.counting, if_true, e] at hleft ⊢
      exact hq s' _ rfl rfl hleft

/-- A walk that only a wrong template stops stops for no other fault. -/
lemma onlyAssertions (h : Leads p w ok stopped) (hw : OnlyAssertions w) : Leads p w ok fun stop s =>
    stopped stop s ∧ ∀ f, stop = .fault f → f.faultClass = .assertion :=
  intro (fun _ _ _ hs e => h.of_ok hs e) fun _ _ _ hs e =>
    ⟨h.of_error hs e, fun _ hf => hw (hf ▸ e)⟩

/-- An operator under the policy for faults leads to where it leads by itself, if that is where it
is undone to and where it is given up. -/
lemma guarded {q : State → Prop} {n : NodeId} {operator : Operator} {operand : String}
    {undo : Walk Unit} {lacking abandoned : α} (hp : Course (Keeping p)) (hq : Course (Keeping q))
    (h : Leads p w ok fun stop s =>
      q s ∧ ∀ f, stop = .fault f → f.faultClass = .content → p s)
    (hundo : Runs (Keeping p) Unit undo) (hpq : ∀ s, p s → q s)
    (hlacking : ∀ s, p s → ok lacking s) (habandoned : ∀ s, q s → ok abandoned s) :
    Leads p (Walk.guarded n operator operand undo lacking abandoned w) ok fun _ => q := by
  intro s hs
  rcases e : Walk.inOperator n operator operand w s with ⟨stop | a, s'⟩
  · obtain ⟨found, hact, hfault⟩ := inOperator_error e
    obtain ⟨hqs, hps⟩ := h.of_error hs hact
    rw [Walk.guarded, run_tryCatch_of_error e]
    cases stop with
    | missing m => exact hqs
    | fault f =>
      obtain ⟨hsite, g, hg, hsame⟩ := hfault f rfl
      dsimp only
      cases hclass : f.faultClass with
      | content =>
        have hback : Leads p (do undo; record f; return lacking) ok fun _ => p :=
          (of_keeping hundo).bind fun _ =>
            (of_keeping (hp.record f hsite hclass)).bind fun _ s hs => hlacking s hs
        exact (hback.mono (fun _ h => h) (fun _ _ h => h) fun _ => hpq) s'
          (hps g hg ((congrArg Cause.faultClass hsame).symm.trans hclass))
      | assertion => exact hqs
      | other =>
        have hup : Leads q (do report f; return abandoned) ok fun _ => q :=
          (of_keeping (hq.report f hsite hclass)).bind fun _ s hs => habandoned s hs
        exact hup s' hqs
  · rw [Walk.guarded, run_tryCatch_of_ok e]
    exact h.of_ok hs (inOperator_ok e)

end Leads

end TreeTemplate.Walk
