import TreeTemplate.Proofs.Content.Cleared
import TreeTemplate.Proofs.Courses.Alike
import TreeTemplate.Proofs.Documents.Anchored
import TreeTemplate.Proofs.Injection.Unscoped

/-!
# Doing nothing for null and undoing what stopped

Null and what the model lacks are met in different places: an operator has a case for null, and the
policy for faults undoes an operator that stops. Two such walks lead from one state to the same one
if undoing ends where the case for null ends.

Main statements:

* `Walk.sameFrom_of_undo` — undoing ends where the operator ends for null;
* `Walk.sameFrom_of_recordsNothing` — the operator does for null what undoes it;
* `Walk.sameFrom_of_assertion` — the operator stops before it reads.
-/

namespace TreeTemplate

/-- One operator more has recorded what the model lacks, unless it stopped. -/
def Operator.Adds (operator : Operator) (operand : String) (cause : Cause) (succeeds : Bool)
    (noted noted' : List Fault) : Prop :=
  noted = [] ∧
    if succeeds then ∃ element, noted' = [.ofSite ⟨operator, element, operand⟩ cause]
    else noted' = []

namespace Walk

variable {α : Type} {s left : State} {n : NodeId} {t : Tree NodeId} {operator : Operator}
  {operand : String} {cause : Cause} {act act' : Walk α} {undo : Walk Unit} {lacking abandoned : α}

/-- From a state two walks lead to the same, apart from what they record. -/
def SameFrom (s : State) (p : Bool → List Fault → List Fault → Prop) (w w' : Walk α) : Prop :=
  ∃ (result : Except Stop α) (left : State) (noted noted' : List Fault),
    p result.isOk noted noted' ∧
    w s = (result, { left with diagnostics := s.diagnostics ++ noted }) ∧
    w' s = (result, { left with diagnostics := s.diagnostics ++ noted' })

/-- Walks that are alike where a node is found lead from there to the same. -/
lemma Alike.sameFrom {p : Bool → List Fault → List Fault → Prop} {w w' : Walk α}
    (h : Alike n p w w') (hn : s.document.find? n = some t) : SameFrom s p w w' := by
  obtain ⟨result, left, noted, noted', -, -, hp, hrun⟩ := h s (by rw [hn]; rfl)
  exact ⟨result, left, noted, noted', hp, (hrun s.diagnostics).1, (hrun s.diagnostics).2⟩

/-- Both walks stop in the same way, and nothing was recorded. -/
lemma SameFrom.stopped {w w' : Walk α} (stop : Stop) (h : w s = (.error stop, left))
    (h' : w' s = (.error stop, left)) (hd : left.diagnostics = s.diagnostics) :
    SameFrom s (operator.Adds operand cause) w w' := by
  refine ⟨.error stop, left, [], [], ⟨rfl, rfl⟩, ?_⟩
  rw [List.append_nil, ← hd]
  exact ⟨h, h'⟩

/-- Where the model lacks what an operator reads, the operator is undone, and that is recorded. -/
lemma run_guarded_of_content (h : act s = (.error (.fault ⟨cause, none⟩), left))
    (hcause : cause.faultClass = .content) (hn : left.document.find? n = some t) :
    guarded n operator operand undo lacking abandoned act s = (do
      undo
      record (.ofSite ⟨operator, t.describe, operand⟩ cause)
      return lacking : Walk α) left := by
  have hsite : site n operator operand left = (.ok ⟨operator, t.describe, operand⟩, left) :=
    run_bind_of_ok (run_node hn)
  have hin : inOperator n operator operand act s =
      (.error (.fault (.ofSite ⟨operator, t.describe, operand⟩ cause)), left) := by
    rw [inOperator, run_tryCatch_of_error h]
    exact run_bind_of_ok hsite
  rw [guarded, run_tryCatch_of_error hin]
  simp only [Fault.ofSite, Fault.faultClass, hcause]

/-- Undoing an operator after it stopped comes to what the operator does for null, if undoing from
where it stopped ends where the operator ends for null. -/
lemma sameFrom_of_undo {at' : State} (h : act s = (.ok lacking, left))
    (h' : act' s = (.error (.fault ⟨cause, none⟩), at')) (hcause : cause.faultClass = .content)
    (hn : at'.document.find? n = some t) (hundo : undo at' = (.ok (), left))
    (hd : left.diagnostics = s.diagnostics) :
    SameFrom s (operator.Adds operand cause)
      (guarded n operator operand undo lacking abandoned act)
      (guarded n operator operand undo lacking abandoned act') := by
  refine ⟨.ok lacking, left, [], [_], ⟨rfl, t.describe, rfl⟩, ?_, ?_⟩
  · rw [List.append_nil, ← hd]
    exact guarded_of_ok h
  · rw [run_guarded_of_content h' hcause hn, run_bind_of_ok hundo, ← hd]
    rfl

/-- Neither an operator nor undoing it gets past a node that is gone. -/
lemma sameFrom_of_missing {m : NodeId} (h : act s = (.error (.missing m), left))
    (h' : act' s = (.error (.fault ⟨cause, none⟩), s)) (hcause : cause.faultClass = .content)
    (hn : s.document.find? n = some t) (hundo : undo s = (.error (.missing m), left))
    (hd : left.diagnostics = s.diagnostics) :
    SameFrom s (operator.Adds operand cause)
      (guarded n operator operand undo lacking abandoned act)
      (guarded n operator operand undo lacking abandoned act') := by
  refine .stopped (.missing m) ?_ ?_ hd
  · have hin : inOperator n operator operand act s = (.error (.missing m), left) := by
      rw [inOperator, run_tryCatch_of_error h]
      rfl
    rw [guarded, run_tryCatch_of_error hin]
    rfl
  · rw [run_guarded_of_content h' hcause hn, run_bind_of_error hundo]

/-- What stops an operator before it reads stops it whatever it would read. -/
lemma sameFrom_of_assertion {stop : Stop} (h : act s = (.error stop, left))
    (h' : act' s = (.error stop, left))
    (hclass : ∀ f, stop = .fault f → f.faultClass = .assertion)
    (hd : left.diagnostics = s.diagnostics) :
    SameFrom s (operator.Adds operand cause)
      (guarded n operator operand undo lacking abandoned act)
      (guarded n operator operand undo lacking abandoned act') := by
  -- with the place of the operator, or without it where the element is gone
  have hstops : ∃ stop', ∀ w : Walk α, w s = (.error stop, left) →
      guarded n operator operand undo lacking abandoned w s = (.error stop', left) := by
    cases hn : left.document.find? n with
    | some t =>
      exact ⟨stop.inOperator ⟨operator, t.describe, operand⟩, fun w hw =>
        Alike.run_guarded_of_assertion hw hclass hn⟩
    | none =>
      have hsite : site n operator operand left = (.error (.missing n), left) :=
        run_bind_of_error (by simp only [node, run_get, hn, run_throw])
      cases stop with
      | missing m =>
        refine ⟨.missing m, fun w hw => ?_⟩
        have hin : inOperator n operator operand w s = (.error (.missing m), left) := by
          rw [inOperator, run_tryCatch_of_error hw]
          rfl
        rw [guarded, run_tryCatch_of_error hin]
        rfl
      | fault f =>
        refine ⟨.missing n, fun w hw => ?_⟩
        have hin : inOperator n operator operand w s = (.error (.missing n), left) := by
          rw [inOperator, run_tryCatch_of_error hw]
          exact run_bind_of_error hsite
        rw [guarded, run_tryCatch_of_error hin]
        rfl
  obtain ⟨stop', hstops⟩ := hstops
  exact .stopped stop' (hstops act h) (hstops act' h') hd

/-- A walk succeeds or finds a node gone, and records nothing. -/
def RecordsNothing (w : Walk Unit) (s : State) : Prop :=
  ∃ left, left.diagnostics = s.diagnostics ∧
    (w s = (.ok (), left) ∨ ∃ m, w s = (.error (.missing m), left))

/-- Editing the document records nothing. -/
lemma recordsNothing_edit (n : NodeId) (f : NodeId → Document → Option Document) (s : State) :
    RecordsNothing (edit n f) s := by
  cases e : f n s.document with
  | none =>
    refine ⟨s, rfl, .inr ⟨n, ?_⟩⟩
    simp only [edit, run_get, e]
    rfl
  | some d => exact ⟨{ s with document := d }, rfl, .inl (run_edit e)⟩

/-- Setting or removing an attribute records nothing. -/
lemma recordsNothing_putAttribute (n : NodeId) (name : String) (value? : Option String)
    (s : State) :
    RecordsNothing (putAttribute n name value?) s := by
  cases value? with
  | some value => exact recordsNothing_edit n (fun n d => d.update? n (·.setAttr name value)) s
  | none => exact recordsNothing_edit n (fun n d => d.update? n (·.removeAttr name)) s

/-- Editing the document leaves what was recorded as it is. -/
lemma quiet_edit (n : NodeId) (f : NodeId → Document → Option Document) :
    Runs (fun s s' => s'.diagnostics = s.diagnostics) _ (edit n f) := by
  intro s
  obtain ⟨left, hd, e | ⟨m, e⟩⟩ := recordsNothing_edit n f s <;> rw [e] <;> exact hd

/-- What takes nodes away records nothing. -/
lemma taking_quiet : Taking (Runs fun s s' => s'.diagnostics = s.diagnostics) where
  pure _ _ := rfl
  bind {_ _ w f} hw hf s := by
    rcases e : w s with ⟨stop | a, t⟩
    · rw [run_bind_of_error e]
      exact hw.of_error e
    · rw [run_bind_of_ok e]
      exact (hf a t).trans (hw.of_ok e)
  get _ := rfl
  missing _ _ := rfl
  refuse _ _ _ := rfl
  setStash _ _ := rfl
  detach n := quiet_edit n _
  remove n := quiet_edit n _

/-- Clearing an element leaves what was recorded as it is. -/
lemma quiet_clear (n : NodeId) : Runs (fun s s' => s'.diagnostics = s.diagnostics) _ (clear n) :=
  taking_quiet.clear (quiet_edit n _)

/-- What removes nodes stops at most for one that is gone. -/
lemma forgetting_faultless :
    Forgetting fun _ w =>
      ∀ (s : State) (f : Fault) (s' : State), w s ≠ (.error (.fault f), s') where
  pure _ _ _ _ h := nomatch h
  bind {_ _ w g} hw hg s f s' h := by
    rcases e : w s with ⟨stop | a, t⟩
    · rw [run_bind_of_error e] at h
      cases h
      exact hw s f _ e
    · rw [run_bind_of_ok e] at h
      exact hg a t f s' h
  get _ _ _ h := nomatch h
  missing _ _ _ _ h := nomatch h
  setStash _ _ _ _ h := nomatch h
  remove n s f s' h := by
    obtain ⟨left, -, e | ⟨m, e⟩⟩ := recordsNothing_edit n (fun n d => d.remove? n) s <;>
    · rw [remove, e] at h
      cases h

/-- Clearing an element records nothing. -/
lemma recordsNothing_clear (n : NodeId) (s : State) : RecordsNothing (clear n) s := by
  have hfaultless := forgetting_faultless.clear (n := n) fun s f s' h => by
    obtain ⟨left, -, e | ⟨m, e⟩⟩ := recordsNothing_edit n (fun n d => d.removeChildren? n) s <;>
    · rw [e] at h
      cases h
  rcases e : clear n s with ⟨stop | _, left⟩
  · cases stop with
    | missing m => exact ⟨left, (quiet_clear n).of_error e, .inr ⟨m, e⟩⟩
    | fault f => exact absurd e (hfaultless s f left)
  · exact ⟨left, (quiet_clear n).of_ok e, .inl e⟩

/-- An operator that does for null what undoes it. -/
lemma sameFrom_of_recordsNothing (h : act s = (do undo; return lacking : Walk α) s)
    (h' : act' s = (.error (.fault ⟨cause, none⟩), s)) (hcause : cause.faultClass = .content)
    (hn : s.document.find? n = some t) (hundo : RecordsNothing undo s) :
    SameFrom s (operator.Adds operand cause)
      (guarded n operator operand undo lacking abandoned act)
      (guarded n operator operand undo lacking abandoned act') := by
  obtain ⟨left, hd, e | ⟨m, e⟩⟩ := hundo
  · exact sameFrom_of_undo (h.trans (run_bind_of_ok e)) h' hcause hn e hd
  · exact sameFrom_of_missing (h.trans (run_bind_of_error e)) h' hcause hn e hd

end Walk

end TreeTemplate
