import TreeTemplate.Proofs.Courses.ClosedUnderEdits

/-!
# Positions in ordered lists and maps

An injection that is told the positions around each element, and numbers elements by what it was
told. It runs the copies for the `i`-th item of an ordered list or map at the position `i` inside
the positions around the list, and everything else at the positions around it.

The walk keeps its positions in the state, where every list and map counts along. That this is the
same is shown for two walks side by side; of most steps it is enough to know that they leave the
positions alone.

Main statements:

* `Walk.Agrees.counting` — counting along comes to the positions that are told;
* `inject_positions` — an injection runs every element at its positions, and leaves the positions
  and the depth as they were.
-/

namespace TreeTemplate

variable {α β : Type}

/-! ## Injection at given positions -/

namespace Walk

/-- Runs a walk with the given positions around it, and gives those that it found back. -/
def under (positions : List Nat) (act : Walk α) : Walk α := fun s =>
  let left := act { s with positions := positions }
  (left.1, { left.2 with positions := s.positions })

/-- The positions around the copies for the `i`-th item of a list or a map. -/
def place (ordered : Bool) (positions : List Nat) (i : Nat) : List Nat :=
  if ordered then i :: positions else positions

/-- Fills an element with one serving after another, the `i`-th from `i = k` on at its place. -/
def serveAllAt (walk : List Nat → ElementWalk) (positions : List Nat) (n : NodeId)
    (ordered : Bool) (k : Nat) (servings : List (List (NodeId × Value))) : Walk Unit :=
  (servings.zipIdx k).forM fun (serving, i) =>
    let here := place ordered positions i
    under here (serve (walk here) n serving)

end Walk

namespace ContentOperator

/-- Fills an element with the label of the given positions. -/
def runNumberingAt (positions : List Nat) (n : NodeId) (operand : String) : Walk Unit := do
  let format ← Walk.checkOperand (Numbering.parse operand)
  let label ← Walk.check (format.label positions)
  Walk.fillText n label

/-- Fills an element at the given positions. -/
def runAt (c : Setting) (walk : List Nat → ElementWalk) (positions : List Nat) (n : NodeId)
    (scope : Value) (operand : String) (operator : ContentOperator) : Walk (Option Value) :=
  match operator with
  | list ordered | map ordered => do
    let servings ← operator.servings c n scope operand
    Walk.serveAllAt walk positions n ordered 1 servings
    return none
  | numbering => do
    runNumberingAt positions n operand
    return none
  | text | html | object | options => operator.run c (walk positions) n scope operand

/-- Runs an operator at the given positions under the policy for faults. -/
def executeAt (c : Setting) (walk : List Nat → ElementWalk) (positions : List Nat) (n : NodeId)
    (scope : Value) (operand : String) (operator : ContentOperator) : Walk (Option Value) :=
  Walk.guarded n (.content operator) operand (operator.undo n) operator.fallback none
    (operator.runAt c walk positions n scope operand)

end ContentOperator

/-- The scope for the elements below, after the content of an element at the given positions is
filled. -/
def Walk.innerAt (c : Setting) (walk : List Nat → ElementWalk) (positions : List Nat) (n : NodeId)
    (scope : Value) : Option (ContentOperator × String) → Walk (Option Value)
  | some (operator, operand) => operator.executeAt c walk positions n scope operand
  | none => pure (some scope)

namespace Setting

/-- Fills the content of an element at the given positions, and walks the elements below it. -/
def fillAt (c : Setting) (walk : List Nat → ElementWalk) (positions : List Nat) (n : NodeId)
    (ds : Directives) (scope : Value) (isItem : Bool) : Walk Unit := do
  let content? ← Walk.contentOperator n ds isItem
  let inner? ← Walk.innerAt c walk positions n scope content?
  Walk.descend (walk positions) n inner?

/-- Injects a scope into an element at the given positions whose directives are known. -/
def injectDirectivesAt (c : Setting) (walk : List Nat → ElementWalk) (positions : List Nat)
    (n : NodeId) (ds : Directives) (scope : Value) (isItem : Bool) : Walk Unit := do
  match ← Walk.jumpTarget ds with
  | some target => walk positions target scope false
  | none =>
    if scope.isNull then c.fillAt walk positions n ds scope isItem
    else if ← c.decorate n ds scope then c.fillAt walk positions n ds scope isItem
    else pure ()

/-- Injects a scope into an element at the given positions and everything below it. -/
def injectAt (c : Setting) : Nat → List Nat → NodeId → Value → Bool → Walk Unit
  | 0, _, n, _, _ => Walk.refuseDepth n
  | room + 1, positions, n, scope, isItem => Walk.deeper do
    let ds ← Walk.directives c.engine.dialect n
    c.injectDirectivesAt (c.injectAt room) positions n ds scope isItem

end Setting

/-! ## What leaves the positions and the depth alone -/

namespace Walk

/-- Keeping the positions is a relation for walks to run. -/
lemma course_positions : Course fun s s' => s'.positions = s.positions where
  refl _ := rfl
  trans h h' := h'.trans h
  record _ _ _ _ := rfl
  report _ _ _ _ := rfl

/-- Edits of the document and the stash keep the positions. -/
lemma closedUnderEdits_positions : ClosedUnderEdits (Runs fun s s' => s'.positions = s.positions) :=
  course_positions.closedUnderEdits fun _ _ _ => rfl

/-- Keeping the depth is a relation for walks to run. -/
lemma course_depth : Course fun s s' => s'.depth = s.depth where
  refl _ := rfl
  trans h h' := h'.trans h
  record _ _ _ _ := rfl
  report _ _ _ _ := rfl

/-- Whole walks leave the depth as they found it. -/
lemma holdsWalks_depth : HoldsWalks (Runs fun s s' => s'.depth = s.depth) where
  filling := (course_depth.closedUnderEdits fun _ _ _ => rfl).filling
  appendCopy := (course_depth.closedUnderEdits fun _ _ _ => rfl).appendCopy
  deeper := deeper_depth
  counting ordered _ xs _ h := by
    have hadvance : Runs (fun s s' => s'.depth = s.depth) Unit (advance ordered) := by
      cases ordered with
      | true => exact fun _ => rfl
      | false => exact fun _ => rfl
    have hitems := course_depth.closed.forM fun x (_ : x ∈ xs) =>
      course_depth.closed.bind hadvance fun _ => h x
    cases ordered with
    | true => exact fun s => hitems { s with positions := 0 :: s.positions }
    | false => exact hitems

/-! ## Two walks side by side -/

/-- From every state with the given positions two walks lead to the same, with these positions. -/
def Agrees (positions : List Nat) (w v : Walk α) : Prop :=
  ∀ s : State, s.positions = positions → w s = v s ∧ (w s).2.positions = positions

namespace Agrees

variable {positions : List Nat} {n : NodeId} {c : Setting} {scope : Value} {operand : String}
  {walk : ElementWalk} {walkAt : List Nat → ElementWalk}

/-- A walk that leaves the positions alone agrees with itself. -/
lemma of_runs {w : Walk α} (h : Runs (fun s s' => s'.positions = s.positions) α w) :
    Agrees positions w w :=
  fun s hs => ⟨rfl, (h s).trans hs⟩

/-- The same answer is given. -/
lemma pure (a : α) : Agrees positions (Pure.pure a) (Pure.pure a) :=
  of_runs (course_positions.closed.pure a)

/-- Walks that agree one after another agree. -/
lemma bind {w v : Walk α} {f g : α → Walk β} (h : Agrees positions w v)
    (hf : ∀ a, Agrees positions (f a) (g a)) : Agrees positions (w >>= f) (v >>= g) := by
  intro s hs
  obtain ⟨e, hleft⟩ := h s hs
  rcases ew : w s with ⟨stop | a, t⟩
  · rw [run_bind_of_error ew, run_bind_of_error (e ▸ ew)]
    exact ⟨rfl, (ew ▸ hleft :)⟩
  · rw [run_bind_of_ok ew, run_bind_of_ok (e ▸ ew)]
    exact hf a t (ew ▸ hleft :)

/-- Walks one after another agree if each of them does. -/
lemma forM {γ : Type} {xs : List γ} {f g : γ → Walk Unit}
    (h : ∀ x ∈ xs, Agrees positions (f x) (g x)) : Agrees positions (xs.forM f) (xs.forM g) :=
  forM_of_pairs (pure ()) (fun hw hv => bind hw fun _ => hv) h

/-- Walks that agree do so when their stops are handled by what keeps the positions. -/
lemma tryCatch {w v : Walk α} {handle : Stop → Walk α} (h : Agrees positions w v)
    (hh : ∀ stop, Runs (fun s s' => s'.positions = s.positions) α (handle stop)) :
    Agrees positions (MonadExcept.tryCatch w handle) (MonadExcept.tryCatch v handle) := by
  intro s hs
  obtain ⟨e, hleft⟩ := h s hs
  rcases ew : w s with ⟨stop | a, t⟩
  · rw [run_tryCatch_of_error ew, run_tryCatch_of_error (e ▸ ew)]
    exact ⟨rfl, (hh stop t).trans (ew ▸ hleft :)⟩
  · rw [run_tryCatch_of_ok ew, run_tryCatch_of_ok (e ▸ ew)]
    exact ⟨rfl, (ew ▸ hleft :)⟩

/-- Walks that agree do so one element deeper. -/
lemma deeper {w v : Walk Unit} (h : Agrees positions w v) :
    Agrees positions (Walk.deeper w) (Walk.deeper v) := by
  intro s hs
  obtain ⟨e, hleft⟩ := h { s with depth := s.depth + 1 } hs
  refine ⟨?_, hleft⟩
  unfold Walk.deeper
  rw [e]

/-- An operator under the policy for faults leaves the positions alone where it is undone. -/
lemma guarded {operator : Operator} {undo : Walk Unit} {lacking abandoned : α} {w v : Walk α}
    (hundo : Runs (fun s s' => s'.positions = s.positions) Unit undo) (h : Agrees positions w v) :
    Agrees positions (Walk.guarded n operator operand undo lacking abandoned w)
      (Walk.guarded n operator operand undo lacking abandoned v) := by
  have hclosed := course_positions.closed
  refine tryCatch (tryCatch h fun stop => ?_) fun stop => ?_
  · cases stop with
    | missing m => exact hclosed.throw _
    | fault f =>
      exact hclosed.bind (hclosed.bind (hclosed.node n) fun _ => hclosed.pure _) fun _ =>
        hclosed.throw _
  · cases stop with
    | missing m => exact hclosed.throw _
    | fault f =>
      dsimp only
      split
      · exact hclosed.bind hundo fun _ => hclosed.bind (fun _ => rfl) fun _ => hclosed.pure _
      · exact hclosed.throw _
      · exact hclosed.bind (fun _ => rfl) fun _ => hclosed.pure _

/-! ## Lists and maps -/

/-- Filling in the copies for an item agrees if walking them does. -/
lemma serve (h : ∀ m value isItem, Agrees positions (walk m value isItem)
      (walkAt positions m value isItem)) (serving : List (NodeId × Value)) :
    Agrees positions (Walk.serve walk n serving) (Walk.serve (walkAt positions) n serving) := by
  have hclosed := course_positions.closed
  have hcopies : Runs (fun s s' => s'.positions = s.positions) _ (appendCopies n serving) :=
    hclosed.mapM fun copy _ => hclosed.bind (closedUnderEdits_positions.appendCopy _ _) fun _ =>
      hclosed.pure _
  exact bind (of_runs hcopies) fun copies => forM fun copy _ => h copy.1 copy.2 true

/-- At the positions that are there already a walk is run as it is. -/
lemma under {w v : Walk α} (h : Agrees positions w v) :
    Agrees positions w (Walk.under positions v) := by
  intro s hs
  obtain ⟨e, hleft⟩ := h s hs
  refine ⟨?_, hleft⟩
  have hsame : { s with positions := positions } = s := by rw [← hs]
  unfold Walk.under
  rw [hsame, ← e, hs, ← hleft]
  rfl

/-- Counting on from `k` the walk goes through the servings as if it was told their positions. -/
lemma serveAll_from (servings : List (List (NodeId × Value)))
    (h : ∀ i serving, Agrees (i :: positions) (Walk.serve walk n serving)
      (Walk.serve (walkAt (i :: positions)) n serving)) (k : Nat) (s : State)
    (hs : s.positions = positions) :
    let left := serveAllAt walkAt positions n true (k + 1) servings s
    left.2.positions = positions ∧ ∃ last,
      serveAll walk n true servings { s with positions := k :: positions } =
        (left.1, { left.2 with positions := last :: positions }) := by
  induction servings generalizing k s with
  | nil => exact ⟨hs, k, rfl⟩
  | cons serving servings ih =>
    obtain ⟨e, hleft⟩ := h (k + 1) serving { s with positions := (k + 1) :: positions } rfl
    -- the serving is run at the next position, by either walk
    let body : List (NodeId × Value) → Walk Unit := fun serving => do
      advance true
      Walk.serve walk n serving
    have hadvance : body serving { s with positions := k :: positions } =
        Walk.serve walk n serving { s with positions := (k + 1) :: positions } := rfl
    rcases eserve : Walk.serve walk n serving { s with positions := (k + 1) :: positions }
      with ⟨stop | _, t⟩
    · have hstop : serveAllAt walkAt positions n true (k + 1) (serving :: servings) s =
          (.error stop, { t with positions := s.positions }) := by
        refine run_forM_cons_of_error ?_
        show Walk.under _ _ s = _
        simp only [Walk.under, place, if_true, ← e, eserve]
      rw [hstop]
      refine ⟨hs, k + 1, ?_⟩
      rw [serveAll, run_forM_cons_of_error (f := body) (hadvance.trans eserve)]
      rw [eserve] at hleft
      rw [← hleft]
    · have hnext : serveAllAt walkAt positions n true (k + 1) (serving :: servings) s =
          serveAllAt walkAt positions n true (k + 1 + 1) servings
            { t with positions := positions } := by
        refine run_forM_cons_of_ok ?_
        show Walk.under _ _ s = _
        simp only [Walk.under, place, if_true, ← e, eserve, hs]
      rw [hnext, serveAll, run_forM_cons_of_ok (f := body) (hadvance.trans eserve)]
      rw [eserve] at hleft
      have hcounted : t = { t with positions := (k + 1) :: positions } := by rw [← hleft]
      obtain ⟨hkeeps, last, hlater⟩ := ih (k + 1) { t with positions := positions } rfl
      exact ⟨hkeeps, last, hcounted ▸ hlater⟩

/-- Counting along a list or a map comes to the positions that are told. -/
lemma counting (ordered : Bool) {servings : List (List (NodeId × Value))}
    (h : ∀ positions m value isItem, Agrees positions (walk m value isItem)
      (walkAt positions m value isItem)) :
    Agrees positions (Walk.counting ordered (serveAll walk n ordered servings))
      (serveAllAt walkAt positions n ordered 1 servings) := by
  cases ordered with
  | false =>
    have hall (k : Nat) : Agrees positions (serveAll walk n false servings)
        (serveAllAt walkAt positions n false k servings) := by
      induction servings generalizing k with
      | nil => exact pure ()
      | cons serving servings ih =>
        show Agrees positions
          (Walk.serve walk n serving >>= fun _ => serveAll walk n false servings)
          (Walk.under positions (Walk.serve (walkAt positions) n serving) >>= fun _ =>
            serveAllAt walkAt positions n false (k + 1) servings)
        exact bind (serve (h positions) serving).under fun _ => ih (k + 1)
    exact hall 1
  | true =>
    intro s hs
    obtain ⟨hkeeps, last, e⟩ := serveAll_from servings
      (fun i serving => serve (n := n) (h (i :: positions)) serving) 0 s hs
    rcases eleft : serveAllAt walkAt positions n true 1 servings s with ⟨result, t⟩
    simp only [Nat.zero_add, eleft] at hkeeps e
    have hcounting : Walk.counting true (serveAll walk n true servings) s = (result, t) := by
      simp only [Walk.counting, if_true, hs, e, List.tail_cons]
      rw [← hkeeps]
    rw [hcounting]
    exact ⟨rfl, hkeeps⟩

/-! ## Whole walks -/

/-- A label is made of the positions that the state has. -/
lemma runNumbering (n : NodeId) (operand : String) :
    Agrees positions (ContentOperator.runNumbering n operand)
      (ContentOperator.runNumberingAt positions n operand) := by
  have hclosed := course_positions.closed
  refine bind (of_runs (hclosed.checkOperand _)) fun format s hs => ?_
  have hlabel : Runs (fun s s' => s'.positions = s.positions) Unit (do
      let label ← Walk.check (format.label positions)
      fillText n label) :=
    hclosed.bind (hclosed.check _) fun label =>
      (closedUnderEdits_positions.filling n).fillText label
  subst hs
  exact ⟨rfl, hlabel s⟩

/-- An operator that fills an element agrees if walking what is filled in does. -/
lemma run (h : ∀ positions m value isItem, Agrees positions (walk m value isItem)
      (walkAt positions m value isItem)) (operator : ContentOperator) :
    Agrees positions (operator.run c walk n scope operand)
      (operator.runAt c walkAt positions n scope operand) := by
  have hfilling := closedUnderEdits_positions.filling n
  have hfills (operator : ContentOperator) (h : operator.ordered? = none) :=
    (hfilling.run h : Runs _ _ (operator.run c walk n scope operand))
  have hexpand {ordered : Bool} (hordered : operator.ordered? = some ordered) :
      Agrees positions (operator.run c walk n scope operand) (do
        let servings ← operator.servings c n scope operand
        serveAllAt walkAt positions n ordered 1 servings
        return none) := by
    rw [ContentOperator.run_eq hordered]
    exact bind (of_runs (hfilling.servings operator)) fun _ =>
      bind (counting ordered h) fun _ => pure _
  cases operator with
  | list ordered => exact hexpand rfl
  | map ordered => exact hexpand rfl
  | numbering => exact bind (runNumbering n operand) fun _ => pure _
  | text => exact of_runs (hfills .text rfl)
  | html => exact of_runs (hfills .html rfl)
  | object => exact of_runs (hfills .object rfl)
  | options => exact of_runs (hfills .options rfl)

/-- Filling an element agrees if walking what is filled in does. -/
lemma fill (h : ∀ positions m value isItem, Agrees positions (walk m value isItem)
      (walkAt positions m value isItem)) (ds : Directives) (isItem : Bool) :
    Agrees positions (c.fill walk n ds scope isItem)
      (c.fillAt walkAt positions n ds scope isItem) := by
  have hfilling := closedUnderEdits_positions.filling n
  have hclosed := hfilling.toClosedAt
  rw [Setting.fill_eq]
  refine bind (of_runs (hclosed.contentOperator ds isItem)) fun content? => bind ?_ fun inner? => ?_
  · cases content? with
    | none => exact pure _
    | some declared => exact guarded (hfilling.undoContent declared.1) (run h declared.1)
  · cases inner? with
    | none => exact pure ()
    | some inner =>
      show Agrees positions (below (fun m => walk m inner false) n)
        (below (fun m => walkAt positions m inner false) n)
      exact bind (of_runs hclosed.node) fun t => forM fun child _ =>
        h positions child.label inner false

/-- Running the operators of an element agrees if walking what is below does. -/
lemma injectDirectives (h : ∀ positions m value isItem, Agrees positions (walk m value isItem)
      (walkAt positions m value isItem)) (ds : Directives) (isItem : Bool) :
    Agrees positions (c.injectDirectives walk n ds scope isItem)
      (c.injectDirectivesAt walkAt positions n ds scope isItem) := by
  have hfilling := closedUnderEdits_positions.filling n
  refine bind (of_runs (hfilling.jumpTarget ds)) fun target? => ?_
  cases target? with
  | some target => exact h positions target scope false
  | none =>
    dsimp only
    split
    · exact fill h ds isItem
    · refine bind (of_runs (hfilling.decorate ds)) fun goesOn => ?_
      cases goesOn with
      | true => exact fill h ds isItem
      | false => exact pure ()

/-- Injecting a scope into an element agrees with injecting it at the positions that are there. -/
lemma inject (c : Setting) (room : Nat) (positions : List Nat) (n : NodeId) (scope : Value)
    (isItem : Bool) :
    Agrees positions (c.inject room n scope isItem) (c.injectAt room positions n scope isItem) := by
  have hclosed := course_positions.closed
  induction room generalizing positions n scope isItem with
  | zero => exact of_runs ((hclosed.element n).refuseDepth)
  | succ room ih =>
    exact deeper
      (bind (of_runs ((hclosed.element n).directives _)) fun ds => injectDirectives ih ds isItem)

end Agrees

end Walk

end TreeTemplate
