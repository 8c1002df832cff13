import TreeTemplate.Proofs.Courses.OnlyAssertions
import TreeTemplate.Proofs.Forest.Operations
import TreeTemplate.Proofs.Forest.Restyles

/-!
# Walks that differ in what they record

Two walks at a node that lead from every state to the same, apart from the faults that they record.
What they record is put behind what was recorded before and never looked at, so such walks can be
put one after another.

Main statements:

* `Alike.bind`, `Alike.guarded` — walks that are made of walks;
* `Alike.recover_lacking`, `Alike.recoverAll` — clauses that record what the model lacks.
-/

namespace TreeTemplate

/-- What is recorded for a cause in an operator. -/
def Fault.ofSite (site : Site) (cause : Cause) : Fault :=
  ⟨cause, some site⟩

/-- Says in which operator a stop arose. -/
def Stop.inOperator (site : Site) : Stop → Stop
  | fault f => .fault (f.inOperator site)
  | missing m => .missing m

namespace Walk

variable {α β γ : Type}

/-- Where a node is found, two walks lead to the same, with the node still there, apart from what
they record. They stop for assertions only. What they record fits to each other; the first argument
says whether they succeed. -/
def Alike (n : NodeId) (p : Bool → List Fault → List Fault → Prop) (w w' : Walk α) : Prop :=
  ∀ s : State, (s.document.find? n).isSome →
    ∃ (result : Except Stop α) (left : State) (noted noted' : List Fault),
      (left.document.find? n).isSome ∧
      (∀ f, result = .error (.fault f) → f.faultClass = .assertion) ∧
      p result.isOk noted noted' ∧
      ∀ before, w { s with diagnostics := before } =
          (result, { left with diagnostics := before ++ noted }) ∧
        w' { s with diagnostics := before } =
          (result, { left with diagnostics := before ++ noted' })

/-- Both walks succeed and record nothing. -/
def Silent (succeeds : Bool) (noted noted' : List Fault) : Prop :=
  succeeds = true ∧ noted = [] ∧ noted' = []

namespace Alike

variable {n : NodeId} {p q r : Bool → List Fault → List Fault → Prop} {w w' : Walk α}
  {operator : Operator} {operand : String} {cause : Cause}

/-- Giving an answer is alike. -/
lemma pure (a : α) (h : p true [] []) : Alike n p (Pure.pure a) (Pure.pure a) := by
  refine fun s hs => ⟨.ok a, s, [], [], hs, fun _ hf => (nomatch hf), h, fun before => ?_⟩
  rw [List.append_nil]
  exact ⟨rfl, rfl⟩

/-- Stopping for an assertion is alike. -/
lemma refuse (hcause : cause.faultClass = .assertion) (h : p false [] []) :
    Alike n p (Walk.refuse cause : Walk α) (Walk.refuse cause) := by
  refine fun s hs => ⟨.error (.fault ⟨cause, none⟩), s, [], [], hs, fun f hf => ?_, h,
    fun before => ?_⟩
  · cases hf
    exact hcause
  · rw [List.append_nil]
    exact ⟨rfl, rfl⟩

/-- Changing a node that keeps its identity is alike. -/
lemma editNode {f : Tree NodeId → Tree NodeId} (hf : ∀ t : Tree NodeId, (f t).label = t.label)
    (h : p true [] []) : Alike n p (Walk.editNode n f) (Walk.editNode n f) := by
  intro s hs
  obtain ⟨t, hn⟩ := Option.isSome_iff_exists.1 hs
  obtain ⟨d, e, hd, -⟩ := Document.exists_update? hn (hf t)
  refine ⟨.ok (), { s with document := d }, [], [], Option.isSome_of_eq_some hd,
    fun _ hf => (nomatch hf), h, fun before => ?_⟩
  have hedit : Walk.editNode n f { s with diagnostics := before } =
      (.ok (), { s with document := d, diagnostics := before }) :=
    run_edit (g := fun n d => d.update? n f) e
  rw [List.append_nil]
  exact ⟨hedit, hedit⟩

/-- Walks one after another are alike if each of them is, and what they record comes one after
another. -/
lemma bind {f f' : α → Walk β} (h : Alike n p w w') (hf : ∀ a, Alike n q (f a) (f' a))
    (hstop : ∀ noted noted', p false noted noted' → r false noted noted')
    (hgo : ∀ ok first first' later later', p true first first' → q ok later later' →
      r ok (first ++ later) (first' ++ later')) : Alike n r (w >>= f) (w' >>= f') := by
  intro s hs
  obtain ⟨result, left, first, first', hleft, hclass, hp, hrun⟩ := h s hs
  cases result with
  | error stop =>
    refine ⟨.error stop, left, first, first', hleft, fun g hg => hclass g ?_, hstop _ _ hp,
      fun before => ⟨run_bind_of_error (hrun before).1, run_bind_of_error (hrun before).2⟩⟩
    exact congrArg Except.error (Except.error.inj hg)
  | ok a =>
    obtain ⟨result', left', later, later', hleft', hclass', hq, hrun'⟩ := hf a left hleft
    refine ⟨result', left', first ++ later, first' ++ later', hleft', hclass',
      hgo _ _ _ _ _ hp hq, fun before => ?_⟩
    rw [run_bind_of_ok (hrun before).1, run_bind_of_ok (hrun before).2, ← List.append_assoc,
      ← List.append_assoc]
    exact ⟨(hrun' (before ++ first)).1, (hrun' (before ++ first')).2⟩

/-- A walk that succeeds and records nothing may stand before others. -/
lemma bind_after {f f' : α → Walk β} (h : Alike n Silent w w') (hf : ∀ a, Alike n q (f a) (f' a)) :
    Alike n q (w >>= f) (w' >>= f') := by
  refine bind h hf (fun _ _ h => nomatch h.1) ?_
  rintro ok _ _ later later' ⟨-, rfl, rfl⟩ hlater
  exact hlater

/-- It may also stand behind them. -/
lemma bind_before {f f' : α → Walk β} (h : Alike n p w w')
    (hf : ∀ a, Alike n Silent (f a) (f' a)) : Alike n p (w >>= f) (w' >>= f') := by
  refine bind h hf (fun _ _ h => h) ?_
  rintro ok first first' _ _ hfirst ⟨rfl, rfl, rfl⟩
  rwa [List.append_nil, List.append_nil]

/-! ## Recording what the model lacks -/

/-- What is recorded of a node that is found names it. -/
lemma run_recover {s : State} {t : Tree NodeId} (hn : s.document.find? n = some t)
    (hcause : cause.faultClass = .content) : Walk.recover n operator operand cause s =
      (.ok (), { s with diagnostics :=
        s.diagnostics ++ [.ofSite ⟨operator, t.describe, operand⟩ cause] }) := by
  have hsite : site n operator operand s = (.ok ⟨operator, t.describe, operand⟩, s) :=
    run_bind_of_ok (run_node hn)
  rw [Walk.recover, run_bind_of_ok hsite]
  simp only [Fault.faultClass, hcause]
  rfl

/-- Faults that the model lacks something are recorded one after another. -/
lemma run_forM_recover {lacking : List Cause} {s : State} {t : Tree NodeId}
    (hn : s.document.find? n = some t) (hlacking : ∀ cause ∈ lacking, cause.faultClass = .content) :
    lacking.forM (Walk.recover n operator operand) s =
      (.ok (), { s with
        diagnostics :=
  s.diagnostics ++ lacking.map (.ofSite ⟨operator, t.describe, operand⟩) }) := by
  induction lacking generalizing s with
  | nil =>
    rw [List.map_nil, List.append_nil]
    rfl
  | cons cause lacking ih =>
    let f : Fault := .ofSite ⟨operator, t.describe, operand⟩ cause
    have hlater := ih (s := { s with diagnostics := s.diagnostics ++ [f] }) hn
      fun other hother => hlacking other (List.mem_cons_of_mem _ hother)
    rw [run_forM_cons_of_ok (run_recover hn (hlacking cause List.mem_cons_self)), hlater,
      List.append_assoc]
    rfl

/-- Some clauses are recorded by one walk and some by the other. -/
lemma recoverAll {lacking lacking' : List Cause}
    (hlacking : ∀ cause ∈ lacking, cause.faultClass = .content)
    (hlacking' : ∀ cause ∈ lacking', cause.faultClass = .content)
    (h : ∀ element, p true (lacking.map (.ofSite ⟨operator, element, operand⟩))
      (lacking'.map (.ofSite ⟨operator, element, operand⟩))) :
    Alike n p (lacking.forM (Walk.recover n operator operand))
      (lacking'.forM (Walk.recover n operator operand)) := by
  intro s hs
  obtain ⟨t, ht⟩ := Option.isSome_iff_exists.1 hs
  exact ⟨.ok (), s, _, _, hs, fun _ hf => (nomatch hf), h t.describe, fun before =>
    ⟨run_forM_recover (s := { s with diagnostics := before }) ht hlacking,
      run_forM_recover (s := { s with diagnostics := before }) ht hlacking'⟩⟩

/-- A clause that is recorded by both walks. -/
lemma recover (hcause : cause.faultClass = .content)
    (h : ∀ element, p true [.ofSite ⟨operator, element, operand⟩ cause]
      [.ofSite ⟨operator, element, operand⟩ cause]) :
    Alike n p (Walk.recover n operator operand cause) (Walk.recover n operator operand cause) := by
  intro s hs
  obtain ⟨t, ht⟩ := Option.isSome_iff_exists.1 hs
  exact ⟨.ok (), s, _, _, hs, fun _ hf => (nomatch hf), h t.describe, fun before =>
    ⟨run_recover (s := { s with diagnostics := before }) ht hcause,
      run_recover (s := { s with diagnostics := before }) ht hcause⟩⟩

/-- A clause that only the second walk records. -/
lemma recover_lacking (hcause : cause.faultClass = .content)
    (h : ∀ element, p true [] [.ofSite ⟨operator, element, operand⟩ cause]) :
    Alike n p (Pure.pure ()) (Walk.recover n operator operand cause) := by
  intro s hs
  obtain ⟨t, ht⟩ := Option.isSome_iff_exists.1 hs
  refine ⟨.ok (), s, [], _, hs, fun _ hf => (nomatch hf), h t.describe, fun before => ⟨?_,
    run_recover (s := { s with diagnostics := before }) ht hcause⟩⟩
  rw [List.append_nil]
  rfl

/-- A clause that is written wrongly stops both walks. -/
lemma recover_wrong (hcause : cause.faultClass = .assertion) (h : p false [] []) :
    Alike n p (Walk.recover n operator operand cause) (Walk.recover n operator operand cause) := by
  intro s hs
  obtain ⟨t, ht⟩ := Option.isSome_iff_exists.1 hs
  let f : Fault := ⟨cause, some ⟨operator, t.describe, operand⟩⟩
  have hrun (before : List Fault) : Walk.recover n operator operand cause
      { s with diagnostics := before } =
        (.error (.fault f), { s with diagnostics := before ++ [] }) := by
    have hsite : site n operator operand { s with diagnostics := before } =
        (.ok ⟨operator, t.describe, operand⟩, { s with diagnostics := before }) :=
      run_bind_of_ok (run_node ht)
    rw [Walk.recover, run_bind_of_ok hsite, List.append_nil]
    simp only [Fault.faultClass, hcause]
    rfl
  refine ⟨.error (.fault f), s, [], [], hs, fun g hg => ?_, h, fun before =>
    ⟨hrun before, hrun before⟩⟩
  cases hg
  exact hcause

/-! ## Operators -/

/-- An operator that stops for assertions only is never undone, so the policy for faults adds the
place of the operator and nothing else. -/
lemma run_guarded_of_assertion {undo : Walk Unit} {lacking abandoned : α} {s left : State}
    {stop : Stop} {t : Tree NodeId} (h : w s = (.error stop, left))
    (hclass : ∀ f, stop = .fault f → f.faultClass = .assertion)
    (hn : left.document.find? n = some t) :
    Walk.guarded n operator operand undo lacking abandoned w s =
      (.error (stop.inOperator ⟨operator, t.describe, operand⟩), left) := by
  have hsite : site n operator operand left = (.ok ⟨operator, t.describe, operand⟩, left) :=
    run_bind_of_ok (run_node hn)
  have hin : Walk.inOperator n operator operand w s =
      (.error (stop.inOperator ⟨operator, t.describe, operand⟩), left) := by
    rw [Walk.inOperator, run_tryCatch_of_error h]
    cases stop with
    | missing m => rfl
    | fault f => exact run_bind_of_ok hsite
  rw [Walk.guarded, run_tryCatch_of_error hin]
  cases stop with
  | missing m => rfl
  | fault f =>
    have hfault : (f.inOperator ⟨operator, t.describe, operand⟩).faultClass = .assertion :=
      hclass f rfl
    simp only [Stop.inOperator, hfault]
    rfl

/-- Walks that are alike are so as operators under the policy for faults. -/
lemma guarded {undo : Walk Unit} {lacking abandoned : α} (h : Alike n p w w') :
    Alike n p (Walk.guarded n operator operand undo lacking abandoned w)
      (Walk.guarded n operator operand undo lacking abandoned w') := by
  intro s hs
  obtain ⟨result, left, noted, noted', hleft, hclass, hp, hrun⟩ := h s hs
  cases result with
  | ok a =>
    exact ⟨.ok a, left, noted, noted', hleft, fun _ hf => (nomatch hf), hp, fun before =>
      ⟨guarded_of_ok (hrun before).1, guarded_of_ok (hrun before).2⟩⟩
  | error stop =>
    obtain ⟨t, ht⟩ := Option.isSome_iff_exists.1 hleft
    have hstop : ∀ f, stop = .fault f → f.faultClass = .assertion := fun f hf =>
      hclass f (congrArg Except.error hf)
    have hfound (found : List Fault) :
        ({ left with diagnostics := found } : State).document.find? n = some t := ht
    refine ⟨.error (stop.inOperator ⟨operator, t.describe, operand⟩), left, noted, noted', hleft,
      fun f hf => ?_, hp, fun before =>
        ⟨run_guarded_of_assertion (hrun before).1 hstop (hfound _),
          run_guarded_of_assertion (hrun before).2 hstop (hfound _)⟩⟩
    cases stop with
    | missing m => cases hf
    | fault g =>
      cases hf
      exact hstop g rfl

end Alike

end Walk

end TreeTemplate
