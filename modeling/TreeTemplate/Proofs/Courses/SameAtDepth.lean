import TreeTemplate.Proofs.Injection.Positions

/-!
# Walks that are the same at a depth

Two walks that are the same but for what they do where one of them is cut off: from every state at a
depth they lead to the same, unless the first one is cut off on the way. What cuts a walk off goes
through the policy for faults, so walks that are made of such walks are the same at the depth as
well.

Main statements:

* `SameAtDepth.bind`, `SameAtDepth.guarded` — walks that are made of walks;
* `SameAtDepth.injectDirectives`, `SameAtDepth.resetDirectives` — what is done at an
  element, if the walks that it leads to are the same.
-/

namespace TreeTemplate.Walk

variable {α β : Type}

/-- Stops that the policy for faults lets through, whatever operator they come from. -/
structure Cutting (cut : Stop → Prop) : Prop where
  assertion : ∀ {f : Fault}, cut (.fault f) → f.faultClass = .assertion
  inOperator : ∀ {f : Fault}, cut (.fault f) → ∀ site, cut (.fault (f.inOperator site))
  missing : ∀ {f : Fault}, cut (.fault f) → ∀ n, cut (.missing n)

/-- A walk ended with something that cuts it off. -/
def CutOff (cut : Stop → Prop) (left : Except Stop α × State) : Prop :=
  ∃ stop, cut stop ∧ left.1 = .error stop

/-- From every state at a depth two walks lead to the same, at this depth, unless the first is cut
off. -/
def SameAtDepth (cut : Stop → Prop) (depth : Nat) (w v : Walk α) : Prop :=
  ∀ s : State, s.depth = depth → (w s = v s ∧ (w s).2.depth = depth) ∨ CutOff cut (w s)

namespace SameAtDepth

variable {cut : Stop → Prop} {depth : Nat} {n : NodeId} {operand : String} {w v : Walk α}
  {c : Setting} {scope : Value}

/-- A walk that gives the depth back is the same as itself. -/
lemma of_runs (h : Runs (fun s s' => s'.depth = s.depth) α w) : SameAtDepth cut depth w w :=
  fun s hs => .inl ⟨rfl, (h s).trans hs⟩

/-- Giving an answer is the same at every depth. -/
lemma pure (a : α) : SameAtDepth cut depth (Pure.pure a) (Pure.pure a) :=
  of_runs (course_depth.closed.pure a)

/-- Walks one after another are the same at a depth if each of them is. -/
lemma bind {f g : α → Walk β} (h : SameAtDepth cut depth w v)
    (hf : ∀ a, SameAtDepth cut depth (f a) (g a)) : SameAtDepth cut depth (w >>= f) (v >>= g) := by
  intro s hs
  rcases h s hs with ⟨e, hleft⟩ | ⟨stop, hcut, hstop⟩
  · rcases ew : w s with ⟨stop | a, t⟩
    · rw [run_bind_of_error ew, run_bind_of_error (e ▸ ew)]
      exact .inl ⟨rfl, (ew ▸ hleft :)⟩
    · rw [run_bind_of_ok ew, run_bind_of_ok (e ▸ ew)]
      exact hf a t (ew ▸ hleft :)
  · rw [run_bind_of_error (Prod.ext hstop rfl : w s = (.error stop, (w s).2))]
    exact .inr ⟨stop, hcut, rfl⟩

/-- Walks for several things are the same at a depth if each of them is. -/
lemma forM {γ : Type} {xs : List γ} {f g : γ → Walk Unit}
    (h : ∀ x ∈ xs, SameAtDepth cut depth (f x) (g x)) :
    SameAtDepth cut depth (xs.forM f) (xs.forM g) :=
  forM_of_pairs (pure ()) (fun hw hv => bind hw fun _ => hv) h

/-- What is done about a stop gives the depth back, and does not hide what cuts a walk off. -/
lemma tryCatch {handle : Stop → Walk α} (h : SameAtDepth cut depth w v)
    (hdepth : ∀ stop, Runs (fun s s' => s'.depth = s.depth) α (handle stop))
    (hcut : ∀ stop, cut stop → ∀ s, CutOff cut (handle stop s)) :
    SameAtDepth cut depth (MonadExcept.tryCatch w handle) (MonadExcept.tryCatch v handle) := by
  intro s hs
  rcases h s hs with ⟨e, hleft⟩ | ⟨stop, hstop, herror⟩
  · rcases ew : w s with ⟨stop | a, t⟩
    · rw [run_tryCatch_of_error ew, run_tryCatch_of_error (e ▸ ew)]
      exact .inl ⟨rfl, (hdepth stop t).trans (ew ▸ hleft :)⟩
    · rw [run_tryCatch_of_ok ew, run_tryCatch_of_ok (e ▸ ew)]
      exact .inl ⟨rfl, (ew ▸ hleft :)⟩
  · rw [run_tryCatch_of_error (Prod.ext herror rfl : w s = (.error stop, (w s).2))]
    exact .inr (hcut stop hstop _)

/-- A fault that cuts a walk off in an operator goes on with the place of the operator; where the
element is gone the walk is cut off for that. -/
lemma inOperator (hcutting : Cutting cut) {operator : Operator} (h : SameAtDepth cut depth w v) :
    SameAtDepth cut depth (Walk.inOperator n operator operand w)
      (Walk.inOperator n operator operand v) := by
  have hclosed := course_depth.closed
  refine tryCatch h (fun stop => ?_) fun stop hstop s => ?_
  · cases stop with
    | missing m => exact hclosed.throw _
    | fault f =>
      exact hclosed.bind (hclosed.bind (hclosed.node n) fun _ => hclosed.pure _) fun _ =>
        hclosed.throw _
  · cases stop with
    | missing m => exact ⟨_, hstop, rfl⟩
    | fault f =>
      dsimp only
      cases hfind : s.document.find? n with
      | none =>
        have hsite : site n operator operand s = (.error (.missing n), s) :=
          run_bind_of_error (by simp only [node, run_get, hfind, run_throw])
        rw [run_bind_of_error hsite]
        exact ⟨_, hcutting.missing hstop n, rfl⟩
      | some t =>
        have hsite : site n operator operand s = (.ok ⟨operator, t.describe, operand⟩, s) :=
          run_bind_of_ok (run_node hfind)
        rw [run_bind_of_ok hsite]
        exact ⟨_, hcutting.inOperator hstop _, rfl⟩

/-- Walks under the policy for faults are the same at a depth if they are so by themselves. -/
lemma guarded (hcutting : Cutting cut) {operator : Operator} {undo : Walk Unit}
    {lacking abandoned : α} (hundo : Runs (fun s s' => s'.depth = s.depth) Unit undo)
    (h : SameAtDepth cut depth w v) :
    SameAtDepth cut depth (Walk.guarded n operator operand undo lacking abandoned w)
      (Walk.guarded n operator operand undo lacking abandoned v) := by
  have hclosed := course_depth.closed
  refine tryCatch (inOperator hcutting h) (fun stop => ?_) fun stop hstop s => ?_
  · cases stop with
    | missing m => exact hclosed.throw _
    | fault f =>
      dsimp only
      split
      · exact hclosed.bind hundo fun _ => hclosed.bind (fun _ => rfl) fun _ => hclosed.pure _
      · exact hclosed.throw _
      · exact hclosed.bind (fun _ => rfl) fun _ => hclosed.pure _
  · cases stop with
    | missing m => exact ⟨_, hstop, rfl⟩
    | fault f =>
      dsimp only
      rw [hcutting.assertion hstop]
      exact ⟨_, hstop, rfl⟩

/-- Walks are the same at a depth if they are so one deeper. -/
lemma deeper {w v : Walk Unit} (h : SameAtDepth cut (depth + 1) w v) :
    SameAtDepth cut depth (Walk.deeper w) (Walk.deeper v) := by
  intro s hs
  rcases h { s with depth := s.depth + 1 } (by rw [← hs]) with ⟨e, hleft⟩ | ⟨stop, hcut, hstop⟩
  · refine .inl ⟨by unfold Walk.deeper; rw [e], ?_⟩
    show (w { s with depth := s.depth + 1 }).2.depth - 1 = depth
    rw [hleft, Nat.add_sub_cancel]
  · exact .inr ⟨stop, hcut, hstop⟩

/-- Counting positions leaves walks the same at a depth. -/
lemma counting (ordered : Bool) (h : SameAtDepth cut depth w v) :
    SameAtDepth cut depth (Walk.counting ordered w) (Walk.counting ordered v) := by
  cases ordered with
  | false => exact h
  | true =>
    intro s hs
    rcases h { s with positions := 0 :: s.positions } hs with ⟨e, hleft⟩ | ⟨stop, hcut, hstop⟩
    · refine .inl ⟨?_, hleft⟩
      unfold Walk.counting
      simp only [if_true, e]
    · exact .inr ⟨stop, hcut, hstop⟩

/-! ## What is done at an element -/

variable {walk walk' : ElementWalk}

/-- Filling in copies is the same at a depth if walking them is. -/
lemma serveAll (h : ∀ m value isItem,
      SameAtDepth cut depth (walk m value isItem) (walk' m value isItem)) (ordered : Bool)
    (servings : List (List (NodeId × Value))) :
    SameAtDepth cut depth (Walk.serveAll walk n ordered servings)
      (Walk.serveAll walk' n ordered servings) := by
  have hclosed := course_depth.closed
  have hcopies (serving) : Runs (fun s s' => s'.depth = s.depth) _ (appendCopies n serving) :=
    hclosed.mapM fun copy _ => hclosed.bind (holdsWalks_depth.appendCopy _ _) fun _ =>
        hclosed.pure _
  have hadvance : Runs (fun s s' => s'.depth = s.depth) Unit (advance ordered) := by
    cases ordered with
    | true => exact fun _ => rfl
    | false => exact fun _ => rfl
  exact forM fun serving _ => bind (of_runs hadvance) fun _ =>
    bind (of_runs (hcopies serving)) fun copies => forM fun copy _ => h copy.1 copy.2 true

/-- An operator that fills an element is the same at a depth if walking what is filled in is. -/
lemma run (h : ∀ m value isItem, SameAtDepth cut depth (walk m value isItem) (walk' m value isItem))
    (operator : ContentOperator) :
    SameAtDepth cut depth (operator.run c walk n scope operand)
      (operator.run c walk' n scope operand) := by
  have hfilling := holdsWalks_depth.filling n
  cases hordered : operator.ordered? with
  | none =>
    -- an operator that makes no copies does not walk
    have hsame : operator.run c walk n scope operand = operator.run c walk' n scope operand := by
      cases operator with
      | list _ => cases hordered
      | map _ => cases hordered
      | _ => rfl
    rw [← hsame]
    exact of_runs (hfilling.toPlainFilling.run hordered)
  | some ordered =>
    rw [ContentOperator.run_eq hordered, ContentOperator.run_eq hordered]
    exact bind (of_runs (hfilling.servings operator)) fun servings =>
      bind (counting ordered (serveAll h ordered servings)) fun _ => pure _

/-- Walking what is below an element is the same at a depth if walking each element is. -/
lemma below {walk walk' : NodeId → Walk Unit}
    (h : ∀ m, SameAtDepth cut depth (walk m) (walk' m)) :
    SameAtDepth cut depth (Walk.below walk n) (Walk.below walk' n) :=
  bind (of_runs (course_depth.closed.node n)) fun _ => forM fun child _ => h child.label

/-- Filling an element is the same at a depth if walking what is filled in is. -/
lemma fill (hcutting : Cutting cut)
    (h : ∀ m value isItem, SameAtDepth cut depth (walk m value isItem) (walk' m value isItem))
    (ds : Directives) (isItem : Bool) :
    SameAtDepth cut depth (c.fill walk n ds scope isItem) (c.fill walk' n ds scope isItem) := by
  have hfilling := holdsWalks_depth.filling n
  rw [Setting.fill_eq, Setting.fill_eq]
  refine bind (of_runs ((course_depth.closed.element n).contentOperator ds isItem)) fun content? =>
    bind ?_ fun inner? => ?_
  · cases content? with
    | none => exact pure _
    | some declared =>
      exact guarded hcutting (hfilling.undoContent declared.1) (run h declared.1)
  · cases inner? with
    | none => exact pure ()
    | some inner => exact below fun m => h m inner false

/-- Injections into an element are the same at a depth if the walks into the elements are to which
they lead. -/
lemma injectDirectives (hcutting : Cutting cut)
    (h : ∀ m value isItem, SameAtDepth cut depth (walk m value isItem) (walk' m value isItem))
    (ds : Directives) (isItem : Bool) :
    SameAtDepth cut depth (c.injectDirectives walk n ds scope isItem)
      (c.injectDirectives walk' n ds scope isItem) := by
  have hfilling := holdsWalks_depth.filling n
  refine bind (of_runs (course_depth.closed.jumpTarget ds)) fun target? => ?_
  cases target? with
  | some target => exact h target scope false
  | none =>
    dsimp only
    split
    · exact fill hcutting h ds isItem
    · refine bind (of_runs (hfilling.decorate ds)) fun goesOn => ?_
      cases goesOn with
      | true => exact fill hcutting h ds isItem
      | false => exact pure ()

/-- Resets of an element are the same at a depth if the walks into the elements are to which they
lead. -/
lemma resetDirectives {walk walk' : NodeId → Walk Unit}
    (h : ∀ m, SameAtDepth cut depth (walk m) (walk' m)) (ds : Directives) :
    SameAtDepth cut depth (Walk.resetDirectives walk n ds) (Walk.resetDirectives walk' n ds) := by
  have hfilling := holdsWalks_depth.filling n
  rw [resetDirectives_steps, resetDirectives_steps]
  refine bind (of_runs (course_depth.closed.jumpTarget ds)) fun target? => ?_
  cases target? with
  | some target => exact h target
  | none =>
    exact bind (of_runs (hfilling.undoAttributes ds)) fun _ =>
      bind (of_runs (hfilling.unhide ds)) fun _ =>
        bind (of_runs ((course_depth.closed.element n).unfill hfilling.undoContent ds)) fun _ =>
          below h

end SameAtDepth

end TreeTemplate.Walk
