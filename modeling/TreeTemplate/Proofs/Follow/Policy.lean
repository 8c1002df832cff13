import TreeTemplate.Proofs.Follow.Basic

/-!
# The policy for faults, followed

What is recorded and reported about a fault, and what becomes of an operator that stops.

Main statements:

* `Reaches.inOperator`, `Reaches.guarded` — an operator under the policy.
-/

namespace TreeTemplate

variable {α : Type} {here : Place} {φ : Frame} {s : Walk.State} {P : Element NodeId}
  {operator : Operator} {operand : String} {w : Walk α} {l : Local (Element Unit) α}

/-- The shell of an element has no labels. -/
@[simp]
lemma Element.shell_bare (P : Element NodeId) : P.bare.shell = P.shell := rfl

/-- An element is described as its shell is. -/
@[simp]
lemma Element.describe_tree (P : Element NodeId) (n : NodeId) :
    (P.labelled n).tree.describe = P.shell.describe := rfl

namespace Holds

/-- An element that a state holds is found. -/
lemma run_node (h : Holds s here φ P) :
    Walk.node here.node s = (.ok (P.labelled here.node).tree, s) :=
  Walk.run_node h.find?

/-- The site of a fault in an element that a state holds describes the shell. -/
lemma run_site (operator : Operator) (operand : String) (h : Holds s here φ P) :
    Walk.site here.node operator operand s =
    (.ok ⟨operator, P.shell.describe, operand⟩, s) := by
  refine (Walk.run_bind_of_ok h.run_node).trans ?_
  rw [Element.describe_tree]
  rfl

/-- What was recorded and reported does not count for what a state holds. -/
lemma congr {s' : Walk.State} (h : Holds s here φ P) (hd : s'.document = s.document)
    (hs : s'.stash = s.stash) (hp : s'.positions = s.positions) (hdepth : s'.depth = s.depth) :
    Holds s' here φ P :=
  ⟨hd ▸ h.document, hs ▸ h.stash, hp ▸ h.positions, hdepth ▸ h.depth⟩

end Holds

namespace Reaches

/-- Recording a fault follows noting it. -/
lemma record (h : Holds s here φ P) {f : Fault} (hf : f.faultClass = .content) :
    Reaches s (Shows here φ) (Walk.record f s) (Local.note f P.bare) := by
  refine ⟨rfl, rfl, ?_, P, rfl, h.congr rfl rfl rfl rfl⟩
  simp [Walk.record, Walk.run_modify, Local.note, hf]

/-- Reporting a fault follows noting it. -/
lemma report (h : Holds s here φ P) {f : Fault} (hf : f.faultClass = .other) :
    Reaches s (Shows here φ) (Walk.report f s) (Local.note f P.bare) := by
  refine ⟨rfl, rfl, ?_, P, rfl, h.congr rfl rfl rfl rfl⟩
  have hreported : (Walk.report f s).2.reported = s.reported ++ [f] := rfl
  simp [hreported, Local.note, hf]

/-- A fault that an operator stops for says in which operator it arose. -/
lemma inOperator (operator : Operator) (operand : String) {P : Element Unit}
    (h : Reaches s (Shows here φ) (w s) (l P)) :
    Reaches s (Shows here φ) (Walk.inOperator here.node operator operand w s)
      (Local.inOperator operator operand l P) := by
  rcases e : l P with ⟨f | a, Q, notes⟩
  · rw [e] at h
    obtain ⟨Q', hbare, hholds⟩ := h.shows
    replace hbare : Q'.bare = Q := hbare
    have hsite := hholds.run_site operator operand
    have hrun : Walk.inOperator here.node operator operand w s =
        (.error (.fault (f.inOperator ⟨operator, Q'.shell.describe, operand⟩)), (w s).2) :=
      (Walk.run_tryCatch_of_error h.of_error).trans ((Walk.run_bind_of_ok hsite).trans rfl)
    rw [hrun]
    simp only [Local.inOperator, e]
    refine ⟨?_, h.diagnostics, h.reported, Q', hbare, hholds⟩
    rw [← hbare, Element.shell_bare]
    rfl
  · rw [e] at h
    have hrun : Walk.inOperator here.node operator operand w s = (.ok a, (w s).2) :=
      Walk.run_tryCatch_of_ok h.of_ok
    rw [hrun]
    simp only [Local.inOperator, e]
    exact ⟨rfl, h.diagnostics, h.reported, h.shows⟩

/-- An operator under the policy for faults; it is undone where the model lacks something. -/
lemma guarded {undo : Walk Unit} {undo' : Local (Element Unit) Unit} {lacking abandoned : α}
    {P : Element Unit} (h : Reaches s (Shows here φ) (w s) (l P))
    (hundo : ∀ {f : Fault} {s' : Walk.State} {Q : Element NodeId}, (l P).result = .error f →
      f.faultClass = .content → Q.bare = (l P).state → Holds s' here φ Q →
      Reaches s' (Shows here φ) (undo s') (undo' Q.bare)) :
    Reaches s (Shows here φ) (Walk.guarded here.node operator operand undo lacking abandoned w s)
      (Local.guarded operator operand undo' lacking abandoned l P) := by
  have hin := h.inOperator operator operand
  rcases e : l P with ⟨f | a, Q, notes⟩
  · rw [e] at h hundo
    have he : Local.inOperator operator operand l P =
        ⟨.error (f.inOperator ⟨operator, Q.shell.describe, operand⟩), Q, notes⟩ := by
      simp only [Local.inOperator, e]
    rw [he] at hin
    obtain ⟨Q', hbare, hholds⟩ := hin.shows
    replace hbare : Q'.bare = Q := hbare
    set g := f.inOperator ⟨operator, Q.shell.describe, operand⟩ with hg
    have hclass : g.faultClass = f.faultClass := rfl
    -- the fault is handled in the state in which the action has stopped
    have hhandle : Reaches (Walk.inOperator here.node operator operand w s).2 (Shows here φ)
        (Walk.guarded here.node operator operand undo lacking abandoned w s)
        (Local.settle undo' lacking abandoned g Q) := by
      rw [Walk.guarded, Walk.run_tryCatch_of_error hin.of_error]
      rw [← hbare] at hundo ⊢
      simp only [Local.settle]
      cases hf : g.faultClass with
      | content =>
        refine Reaches.bind (hundo rfl (hclass.symm.trans hf) rfl hholds) fun _ _ hholds' => ?_
        refine Reaches.bind (record hholds' hf) fun _ hQ hholds'' => ?_
        exact Reaches.pure hholds'' lacking
      | assertion => exact Reaches.fail hholds g
      | other =>
        refine Reaches.bind (report hholds hf) fun _ _ hholds' => ?_
        exact Reaches.pure hholds' abandoned
    have := hin.trans hhandle
    simp only [Local.guarded, Local.orElse, he]
    exact this
  · have he : Local.inOperator operator operand l P = ⟨.ok a, Q, notes⟩ := by
      simp only [Local.inOperator, e]
    rw [he] at hin
    have hrun : Walk.guarded here.node operator operand undo lacking abandoned w s =
        (.ok a, (Walk.inOperator here.node operator operand w s).2) :=
      Walk.run_tryCatch_of_ok hin.of_ok
    rw [hrun]
    simp only [Local.guarded, Local.orElse, he]
    exact ⟨rfl, hin.diagnostics, hin.reported, hin.shows⟩

end Reaches

namespace Follows

variable {I : Element Unit → Prop}

/-- A clause for which the model lacks something is passed over. -/
lemma recover (cause : Cause) : Follows here φ I (Walk.recover here.node operator operand cause)
    (Local.recover operator operand cause) := by
  intro s P _ h
  unfold Walk.recover
  rw [Walk.run_bind_of_ok (h.run_site operator operand)]
  simp only [Local.recover, Element.shell_bare]
  cases hf : (⟨cause, some ⟨operator, P.shell.describe, operand⟩⟩ : Fault).faultClass with
  | content => exact Reaches.record h hf
  | assertion => exact Reaches.fail h _
  | other => exact Reaches.fail h _

/-- A walk under the policy for faults follows an action under it. -/
lemma guarded {undo : Walk Unit} {undo' : Local (Element Unit) Unit} {lacking abandoned : α}
    (h : Follows here φ I w l) (hl : Local.Keeps I l) (hundo : Follows here φ I undo undo') :
    Follows here φ I (Walk.guarded here.node operator operand undo lacking abandoned w)
      (Local.guarded operator operand undo' lacking abandoned l) :=
  fun _ _ hI hP => (h hI hP).guarded fun {_} {_} {_} _ _ hQ hholds =>
    hundo (hQ ▸ hl _ hI) hholds

/-- A walk in an operator follows an action in it. -/
lemma inOperator (h : Follows here φ I w l) :
    Follows here φ I (Walk.inOperator here.node operator operand w)
      (Local.inOperator operator operand l) :=
  fun _ _ hI hP => (h hI hP).inOperator operator operand

end Follows

end TreeTemplate
