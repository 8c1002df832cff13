import TreeTemplate.Proofs.Courses.ClosedUnderEdits
import TreeTemplate.Proofs.Forest.Shells
import TreeTemplate.Proofs.Local.Causes

/-!
# Injection under a null scope

Under a null scope nothing is read. What is left of an injection follows jumps, empties the content
of elements as their operators would, numbers them, and goes on with the elements that are still
there. It needs the dialect of the directives, and neither a model nor formatters.

Main statements:

* `Setting.inject_null_eq` — an injection under a null scope empties elements;
* `inject_unread` — what such an injection does not do.
-/

namespace TreeTemplate

/-! ## Emptying elements -/

/-- Empties the content of an element as its operator does under a null scope. An element is
numbered all the same. -/
def ContentOperator.empty (n : NodeId) (operand : String) : ContentOperator → Walk Unit
  | text => Walk.removeText n
  | html => Walk.clear n
  | object => pure ()
  | list _ => do
    let _ ← Walk.itemTemplate n
    Walk.clear n
  | map _ => do
    let _ ← Walk.entryTemplates n
    Walk.clear n
  | numbering => runNumbering n operand
  | options => do
    let t ← Walk.node n
    if !t.hasTag ["select"] then Walk.refuse (.unsupported (.content .options) t.describe)
    else Walk.clear n

namespace Walk

/-- Empties the content of an element under the policy for faults. The answer says whether the walk
goes on with the elements below it. -/
def emptyContent (n : NodeId) : Option (ContentOperator × String) → Walk (Option Value)
  | some (operator, operand) =>
    guarded n (.content operator) operand (operator.undo n) operator.fallback none do
      operator.empty n operand
      return operator.fallback
  | none => pure (some .null)

/-- Empties an element and everything below it, wherever jumps lead. -/
def unscoped (dialect : Dialect) : Nat → NodeId → Bool → Walk Unit
  | 0, n, _ => refuseDepth n
  | room + 1, n, isItem => deeper do
    let ds ← directives dialect n
    match ← jumpTarget ds with
    | some target => unscoped dialect room target false
    | none => do
      let content? ← contentOperator n ds isItem
      let inner? ← emptyContent n content?
      descend (fun m _ isItem => unscoped dialect room m isItem) n inner?

end Walk

namespace ContentOperator

variable {c : Setting} {walk : ElementWalk} {n : NodeId} {operand : String}

/-- Under a null scope an operator empties the content of its element. -/
lemma run_null (operator : ContentOperator) :
    operator.run c walk n .null operand = (do
      operator.empty n operand
      return operator.fallback) := by
  cases operator with
  | text => rfl
  | html => rfl
  | object => rfl
  | list _ => simp only [run, runList, empty, Value.isNull, if_true, fallback, bind_assoc,
      pure_bind]
  | map _ => simp only [run, runMap, empty, Value.isNull, if_true, fallback, bind_assoc,
      pure_bind]
  | numbering => rfl
  | options => rfl

end ContentOperator

namespace Walk

variable {α β : Type} {n : NodeId} {s s' : State}

/-- Two walks go on the same way if they do with whatever they can have found. -/
lemma bind_congr_of_ok {w : Walk α} {f g : α → Walk β}
    (h : ∀ s a s', w s = (.ok a, s') → f a s' = g a s') : w >>= f = w >>= g := by
  funext s
  rcases e : w s with ⟨stop | a, s'⟩
  · rw [run_bind_of_error e, run_bind_of_error e]
  · rw [run_bind_of_ok e, run_bind_of_ok e]
    exact h s a s' e

/-- What an operator under the policy for faults finds, it finds by itself, or it is what there is
where the model lacks something, or where the branch is given up. -/
lemma guarded_ok {operator : Operator} {operand : String} {undo : Walk Unit}
    {lacking abandoned a : α} {act : Walk α}
    (h : guarded n operator operand undo lacking abandoned act s = (.ok a, s')) :
    act s = (.ok a, s') ∨ a = lacking ∨ a = abandoned := by
  rcases e : inOperator n operator operand act s with ⟨stop | found, t⟩
  · rw [guarded, run_tryCatch_of_error e] at h
    cases stop with
    | missing m => cases h
    | fault f =>
      cases hclass : f.faultClass with
      | content =>
        simp only [hclass] at h
        rcases hundo : undo t with ⟨stop | _, u⟩
        · rw [run_bind_of_error hundo] at h
          cases h
        · rw [run_bind_of_ok hundo] at h
          cases h
          exact .inr (.inl rfl)
      | assertion =>
        simp only [hclass] at h
        cases h
      | other =>
        simp only [hclass] at h
        cases h
        exact .inr (.inr rfl)
  · rw [guarded, run_tryCatch_of_ok e] at h
    cases h
    exact .inl (inOperator_ok e)

/-- The scope that an emptied element leaves to the elements below it is null. -/
lemma emptyContent_ok {content? : Option (ContentOperator × String)} {inner : Value}
    (h : emptyContent n content? s = (.ok (some inner), s')) : inner = .null := by
  have hfallback (operator : ContentOperator) (h : operator.fallback = some inner) :
      inner = .null := by
    cases operator <;> cases h
    rfl
  cases content? with
  | none =>
    cases h
    rfl
  | some content =>
    obtain ⟨operator, operand⟩ := content
    rcases guarded_ok h with h | h | h
    · rcases hempty : operator.empty n operand s with ⟨stop | _, t⟩
      · rw [run_bind_of_error hempty] at h
        cases h
      · rw [run_bind_of_ok hempty] at h
        rw [run_pure] at h
        exact hfallback operator (Except.ok.inj (Prod.mk.inj h).1)
    · exact hfallback operator h.symm
    · cases h

end Walk

/-- Under a null scope an injection empties elements. Neither the model nor the formatters of the
engine have to do with it. -/
lemma Setting.inject_null_eq (c : Setting) (room : Nat) (n : NodeId) (isItem : Bool) :
    c.inject room n .null isItem = Walk.unscoped c.engine.dialect room n isItem := by
  induction room generalizing n isItem with
  | zero => rfl
  | succ room ih =>
    refine congrArg Walk.deeper
      (bind_congr (m := Walk) fun ds => bind_congr (m := Walk) fun target? => ?_)
    cases target? with
    | some target => exact ih target false
    | none =>
      show c.fill (c.inject room) n ds .null isItem = _
      rw [Setting.fill_eq]
      refine bind_congr (m := Walk) fun content? => ?_
      have hinner : Walk.inner c (c.inject room) n .null content? =
          Walk.emptyContent n content? := by
        cases content? with
        | none => rfl
        | some content =>
          show Walk.guarded _ _ _ _ _ _ _ = Walk.guarded _ _ _ _ _ _ _
          rw [ContentOperator.run_null]
      rw [hinner]
      refine Walk.bind_congr_of_ok fun s inner? s' h => ?_
      cases inner? with
      | none => rfl
      | some inner =>
        obtain rfl := Walk.emptyContent_ok h
        simp only [Walk.descend, ih]

namespace Walk

/-! ## Kinds of walks that empty elements -/

variable {Q : (α : Type) → Walk α → Prop} {R : State → State → Prop} {α : Type}

/-- A kind of walks that holds what empties elements under the policy for faults. -/
structure Emptying (Q : (α : Type) → Walk α → Prop) : Prop extends Taking Q where
  giveUp : ∀ {α : Type} {cause : Cause}, cause.faultClass = .other → Q α (Walk.refuse cause)
  removeChildren : ∀ n test, Q Unit (edit n fun n d => d.removeChildrenWhere? n test)
  setText : ∀ n content, Q Unit (edit n fun n d => d.setText? n content)
  guarded : ∀ {α : Type} {undo : Walk Unit} {lacking abandoned : α} {act : Walk α}
    {n operator operand}, Q Unit undo → Q α act →
    Q α (Walk.guarded n operator operand undo lacking abandoned act)
  deeper : ∀ {w : Walk Unit}, Q Unit w → Q Unit (Walk.deeper w)

namespace Emptying

variable (hQ : Emptying Q) {n : NodeId} {operand : String}
include hQ

/-- Clearing an element is of the kind. -/
lemma clear (n : NodeId) : Q _ (Walk.clear n) :=
  hQ.toForgetting.clear (hQ.removeChildren n _)

/-- Numbers are refused where they are written wrongly, and given up where no ordered list is
around. -/
lemma runNumbering : Q _ (ContentOperator.runNumbering n operand) := by
  have hformat : Q Numbering (checkOperand (Numbering.parse operand)) := by
    cases Numbering.parse operand with
    | ok format => exact hQ.pure format
    | error error => exact hQ.refuse rfl (not_ofReading rfl nofun)
  refine hQ.bind hformat fun format => hQ.bind hQ.get fun s => hQ.bind ?_ fun label =>
    hQ.bind (hQ.forgetBelow n) fun _ => hQ.setText n label
  unfold Numbering.label
  split
  · exact hQ.giveUp rfl
  · split
    · exact hQ.giveUp rfl
    · exact hQ.pure _

/-- Emptying an element by an operator is of the kind. -/
lemma emptyOperator (operator : ContentOperator) : Q _ (operator.empty n operand) := by
  cases operator with
  | text => exact hQ.removeChildren n _
  | html => exact hQ.clear n
  | object => exact hQ.pure ()
  | list _ => exact hQ.bind (hQ.itemTemplate n) fun _ => hQ.clear n
  | map _ => exact hQ.bind (hQ.entryTemplates n) fun _ => hQ.clear n
  | numbering => exact hQ.runNumbering
  | options =>
    refine hQ.bind (hQ.node n) fun t => ?_
    split
    · exact hQ.refuse rfl (not_ofReading rfl nofun)
    · exact hQ.clear n

/-- Undoing an operator that fills an element is of the kind. -/
lemma undo (operator : ContentOperator) : Q _ (operator.undo n) := by
  cases operator with
  | text => exact hQ.removeChildren n _
  | html => exact hQ.clear n
  | object => exact hQ.pure ()
  | list _ => exact hQ.bind (hQ.itemTemplate n) fun _ => hQ.clear n
  | map _ => exact hQ.bind (hQ.entryTemplates n) fun _ => hQ.clear n
  | numbering => exact hQ.removeChildren n _
  | options => exact hQ.clear n

/-- Emptying an element is of the kind. -/
lemma emptyContent (content? : Option (ContentOperator × String)) :
    Q _ (Walk.emptyContent n content?) := by
  cases content? with
  | none => exact hQ.pure _
  | some content =>
    exact hQ.guarded (hQ.undo content.1) (hQ.bind (hQ.emptyOperator content.1) fun _ => hQ.pure _)

/-- Reading the directives of an element is of the kind. -/
lemma directives (dialect : Dialect) (n : NodeId) : Q _ (Walk.directives dialect n) := by
  refine hQ.bind (hQ.node n) fun t => ?_
  cases e : Directives.ofAttrs dialect t.describe t.attrs with
  | ok ds => exact hQ.pure ds
  | error cause =>
    obtain ⟨first, second, rfl⟩ := Directives.ofAttrs_conflict e
    exact hQ.refuse rfl (not_ofReading rfl nofun)

/-- Choosing the operator that fills an element is of the kind. -/
lemma contentOperator (ds : Directives) (isItem : Bool) :
    Q _ (Walk.contentOperator n ds isItem) := by
  unfold Walk.contentOperator
  split
  · exact hQ.pure _
  · split
    · exact hQ.bind (hQ.node n) fun _ => hQ.pure _
    · exact hQ.pure _

/-- Emptying whole elements is of the kind, wherever jumps lead. -/
lemma unscoped (dialect : Dialect) (room : Nat) (n : NodeId) (isItem : Bool) :
    Q _ (Walk.unscoped dialect room n isItem) := by
  induction room generalizing n isItem with
  | zero =>
    exact hQ.bind hQ.get fun _ => hQ.bind (hQ.node n) fun _ =>
      hQ.refuse rfl (not_ofReading rfl nofun)
  | succ room ih =>
    refine hQ.deeper (hQ.bind (hQ.directives dialect n) fun ds =>
      hQ.bind (hQ.bind hQ.get fun _ => hQ.pure _) fun target? => ?_)
    cases target? with
    | some target => exact ih target false
    | none =>
      refine hQ.bind (hQ.contentOperator ds isItem) fun content? =>
        hQ.bind (hQ.emptyContent content?) fun inner? => ?_
      cases inner? with
      | none => exact hQ.pure ()
      | some _ => exact hQ.bind (hQ.node n) fun t => hQ.forM fun child _ => ih child.label false

end Emptying

/-! ## The elements that stay -/

/-- The shells of the elements are some of those that were there. -/
def KeepsShells (s s' : State) : Prop :=
  Tree.shells s'.document.trees ⊆ Tree.shells s.document.trees

/-- Keeping shells is a relation for walks to run. -/
lemma course_keepsShells : Course KeepsShells where
  refl _ := List.Subset.refl _
  trans h h' := List.Subset.trans h' h
  record _ _ _ _ := List.Subset.refl _
  report _ _ _ _ := List.Subset.refl _

/-- An edit keeps shells if what it leaves are some of those that were there. -/
lemma keepsShells_edit {n : NodeId} {f : NodeId → Document → Option Document}
    (h : ∀ d d', f n d = some d' → Tree.shells d'.trees ⊆ Tree.shells d.trees) :
    Runs KeepsShells Unit (edit n f) := by
  intro s
  unfold edit
  rw [run_get]
  cases e : f n s.document with
  | none => exact List.Subset.refl _
  | some d => exact h s.document d e

/-- Where elements are emptied, those that stay are as they were. -/
lemma emptying_keepsShells : Emptying (Runs KeepsShells) where
  pure := course_keepsShells.closed.pure
  bind := course_keepsShells.closed.bind
  get := course_keepsShells.closed.get
  missing _ := course_keepsShells.closed.throw _
  refuse _ _ := course_keepsShells.closed.refuse _
  setStash _ _ := List.Subset.refl _
  detach _ := keepsShells_edit fun _ _ => Document.shells_detach?
  remove _ := keepsShells_edit fun _ _ => Document.shells_remove?
  giveUp _ := course_keepsShells.closed.refuse _
  removeChildren _ _ := keepsShells_edit fun _ _ => Document.shells_removeChildrenWhere?
  setText _ _ := keepsShells_edit fun _ _ => Document.shells_setText?
  guarded := course_keepsShells.closed.guarded
  deeper h s := h { s with depth := s.depth + 1 }

/-! ## What goes wrong -/

/-- A walk records nothing that the model lacks, and stops for nothing that was to be read. -/
def Unread (α : Type) (w : Walk α) : Prop :=
  ∀ s, (∃ noted, (w s).2.diagnostics = s.diagnostics ++ noted ∧
      ∀ f ∈ noted, f.faultClass ≠ .content) ∧
    ∀ f, (w s).1 = .error (.fault f) → ¬ f.cause.OfReading

namespace Unread

variable {β : Type}

/-- A walk that neither records anything nor stops for a fault. -/
lemma of_silent {w : Walk α} (h : ∀ s, (w s).2.diagnostics = s.diagnostics)
    (hstop : ∀ s f, (w s).1 ≠ .error (.fault f)) : Unread α w :=
  fun s => ⟨⟨[], by rw [h, List.append_nil], by simp⟩, fun f hf => absurd hf (hstop s f)⟩

/-- Stopping for a cause that is not in what was to be read records nothing of it. -/
lemma refuse {cause : Cause} (h : ¬ cause.OfReading) : Unread α (Walk.refuse cause) := by
  refine fun s => ⟨⟨[], (List.append_nil _).symm, by simp⟩, fun f hf => ?_⟩
  rw [run_refuse] at hf
  cases hf
  exact h

/-- Walks one after another record nothing of the kind if none of them does. -/
lemma bind {w : Walk α} {f : α → Walk β} (hw : Unread α w) (hf : ∀ a, Unread β (f a)) :
    Unread β (w >>= f) := by
  intro s
  obtain ⟨⟨first, hfirst, hlacks⟩, hstop⟩ := hw s
  rcases e : w s with ⟨stop | a, t⟩
  · rw [e] at hfirst hstop
    rw [run_bind_of_error e]
    exact ⟨⟨first, hfirst, hlacks⟩,
      fun g hg => hstop g (congrArg Except.error (Except.error.inj hg))⟩
  · rw [e] at hfirst
    rw [run_bind_of_ok e]
    obtain ⟨⟨later, hlater, hlacks'⟩, hstop'⟩ := hf a t
    refine ⟨⟨first ++ later, ?_, fun g hg => ?_⟩, hstop'⟩
    · rw [hlater, ← List.append_assoc]
      exact congrArg (· ++ later) hfirst
    · exact (List.mem_append.1 hg).elim (hlacks g) (hlacks' g)

/-- Editing the document records nothing of the kind. -/
lemma edit (n : NodeId) (f : NodeId → Document → Option Document) :
    Unread Unit (Walk.edit n f) := by
  refine of_silent (fun s => ?_) fun s g => ?_
  all_goals
    unfold Walk.edit
    rw [run_get]
    cases f n s.document with
    | none => simp [run_throw]
    | some d => simp [run_modify]

/-- An operator that does not read stops for nothing that the policy meets by undoing it. -/
lemma guarded {undo : Walk Unit} {lacking abandoned : α} {act : Walk α} {n : NodeId}
    {operator : Operator} {operand : String} (h : Unread α act) :
    Unread α (Walk.guarded n operator operand undo lacking abandoned act) := by
  intro s
  obtain ⟨⟨noted, hnoted, hlacks⟩, hstop⟩ := h s
  rcases e : inOperator n operator operand act s with ⟨stop | a, t⟩
  · obtain ⟨found, hact, hfault⟩ := inOperator_error e
    rw [hact] at hnoted hstop
    rw [Walk.guarded, run_tryCatch_of_error e]
    cases stop with
    | missing m => exact ⟨⟨noted, hnoted, hlacks⟩, fun _ h => by cases h⟩
    | fault f =>
      obtain ⟨-, g, rfl, hcause⟩ := hfault f rfl
      have hreading : ¬ f.cause.OfReading := hcause ▸ hstop g rfl
      cases hclass : f.faultClass with
      | content => exact absurd (.inl hclass) hreading
      | assertion =>
        simp only [hclass]
        refine ⟨⟨noted, hnoted, hlacks⟩, fun f' hf' => ?_⟩
        cases hf'
        exact hreading
      | other =>
        simp only [hclass]
        refine ⟨⟨noted ++ [f], ?_, fun f' hf' => ?_⟩, fun _ h => by cases h⟩
        · show t.diagnostics ++ [f] = _
          rw [← List.append_assoc]
          exact congrArg (· ++ [f]) hnoted
        · rcases List.mem_append.1 hf' with hf' | hf'
          · exact hlacks f' hf'
          · rw [List.mem_singleton.1 hf', hclass]
            intro h
            cases h
  · have hact := inOperator_ok e
    rw [hact] at hnoted
    rw [Walk.guarded, run_tryCatch_of_ok e]
    exact ⟨⟨noted, hnoted, hlacks⟩, fun _ h => by cases h⟩

end Unread

/-- Nothing is read where elements are emptied. -/
lemma emptying_unread : Emptying Unread where
  pure _ := Unread.of_silent (fun _ => rfl) fun _ _ h => nomatch h
  bind := Unread.bind
  get := Unread.of_silent (fun _ => rfl) fun _ _ h => nomatch h
  missing _ := Unread.of_silent (fun _ => rfl) fun _ _ h => nomatch h
  refuse _ := Unread.refuse
  setStash _ := Unread.of_silent (fun _ => rfl) fun _ _ h => nomatch h
  detach _ := Unread.edit _ _
  remove _ := Unread.edit _ _
  giveUp h := Unread.refuse (by
    rintro (hcontent | ⟨path, found, rfl⟩)
    · rw [h] at hcontent
      cases hcontent
    · cases h)
  removeChildren _ _ := Unread.edit _ _
  setText _ _ := Unread.edit _ _
  guarded _ := Unread.guarded
  deeper h s := h { s with depth := s.depth + 1 }

end Walk

/-- Under a null scope the model is not read. Whatever the model, an injection into an element has
the same result and leaves the same state. What it records is nothing that the model lacks, it does
not stop because a path cannot be read in its scope, and every element that is left was there
before, with the same attributes, and hidden if it was hidden. -/
theorem inject_unread (e : Engine) (model model' : Value) (room : Nat) (n : NodeId) (isItem : Bool)
    (s : Walk.State) :
    let left := Setting.inject ⟨e, model⟩ room n .null isItem s
    Setting.inject ⟨e, model'⟩ room n .null isItem s = left ∧
      (∃ noted, left.2.diagnostics = s.diagnostics ++ noted ∧
        ∀ f ∈ noted, f.faultClass ≠ .content) ∧
      (∀ cause site? path found, left.1 = .error (.fault ⟨cause, site?⟩) →
        cause ≠ .scalarScope path found) ∧
      Tree.shells left.2.document.trees ⊆ Tree.shells s.document.trees := by
  intro left
  have hleft : left = Walk.unscoped e.dialect room n isItem s := by
    show Setting.inject ⟨e, model⟩ room n .null isItem s = _
    rw [Setting.inject_null_eq]
  rw [Setting.inject_null_eq, hleft]
  obtain ⟨hnoted, hstop⟩ := Walk.emptying_unread.unscoped e.dialect room n isItem s
  refine ⟨rfl, hnoted, fun cause site? path found h hcause => ?_,
    Walk.emptying_keepsShells.unscoped e.dialect room n isItem s⟩
  exact hstop _ h (.inr ⟨path, found, hcause⟩)

end TreeTemplate
