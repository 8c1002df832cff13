import TreeTemplate.Proofs.Attributes.Touches
import TreeTemplate.Proofs.Local.IgnoresElement
import TreeTemplate.Proofs.Local.Causes
import TreeTemplate.Proofs.Local.OnlyAssertions

/-!
# What an operator that sets attributes does

An operator that does not stop the walk plays one list of touches: its script, or what undoes it
where the model lacks something, or nothing where its branch is given up. Which one it is depends on
the scope, the tag and the formatter of the element alone.

Main statements:

* `play_of_passes` — a script whose touches all pass;
* `AttributeOperator.Does.execute`, `AttributeOperator.does_of_execute` — an operator that does not
  stop the walk;
* `Element.ReadsLike.does` — an operator does the same to elements that look the same.
-/

namespace TreeTemplate

/-! ## Playing a script -/

namespace Touch

/-- Whether a touch lets the script go on. -/
def passes : Touch → Bool
  | recover cause => cause.faultClass == .content
  | refuse _ => false
  | _ => true

/-- Whether a touch changes something, without a fault. -/
def silent : Touch → Bool
  | recover _ => false
  | refuse _ => false
  | _ => true

/-- A touch that notes nothing does not stop. -/
lemma passes_of_silent {touch : Touch} (h : touch.silent) : touch.passes := by
  cases touch <;> first | rfl | cases h

/-- Where a touch stops the script, the template is written wrongly. -/
def Strict : Touch → Prop
  | recover cause => cause.faultClass = .content ∨ cause.faultClass = .assertion
  | refuse cause => cause.faultClass = .assertion
  | _ => True

/-- What a touch notes when it lets the script go on. -/
def noted (operator : Operator) (operand : String) : Touch → Option Fault
  | recover cause => some ⟨cause, some ⟨operator, "", operand⟩⟩
  | _ => none

/-- A touch that notes nothing notes nothing. -/
lemma noted_of_silent {touch : Touch} (h : touch.silent) (operator : Operator)
    (operand : String) : touch.noted operator operand = none := by
  cases touch <;> first | rfl | cases h

end Touch

namespace Local

variable {operator : Operator} {operand : String} {script : List Touch} {P Q : Element Unit}

/-- A touch that does not stop does what it does and notes what it notes. -/
lemma play_touch (operator : Operator) (operand : String) {touch : Touch} (P : Element Unit)
    (h : touch.passes) : ∃ notes,
    touch.play operator operand P = ⟨.ok (), touch.apply P, notes⟩ ∧
      notes.map Fault.blur = (touch.noted operator operand).toList := by
  cases touch with
  | recover cause =>
    have hclass : cause.faultClass = .content := by simpa [Touch.passes] using h
    have hplay : (Touch.recover cause).play operator operand P =
        ⟨.ok (), P, [⟨cause, some ⟨operator, P.shell.describe, operand⟩⟩]⟩ := by
      simp only [Touch.play, recover, Fault.faultClass, hclass]
      rfl
    exact ⟨_, hplay, rfl⟩
  | refuse cause => cases h
  | _ => exact ⟨[], rfl, rfl⟩

/-- A script whose touches all pass is played to its end. -/
lemma play_of_passes (operator : Operator) (operand : String)
    (h : ∀ touch ∈ script, touch.passes) (P : Element Unit) : ∃ notes,
    play operator operand script P = ⟨.ok (), P.after script, notes⟩ ∧
      notes.map Fault.blur = script.filterMap (Touch.noted operator operand) := by
  induction script generalizing P with
  | nil => exact ⟨[], rfl, rfl⟩
  | cons touch later ih =>
    obtain ⟨first, hfirst, hblur⟩ := play_touch operator operand P (h touch List.mem_cons_self)
    obtain ⟨rest, hrest, hblur'⟩ := ih (fun _ hm => h _ (List.mem_cons_of_mem _ hm))
      (touch.apply P)
    refine ⟨first ++ rest, ?_, ?_⟩
    · rw [play_cons, bind_of_ok hfirst, hrest, Element.after_cons]
    · rw [List.map_append, hblur, hblur', List.filterMap_cons]
      cases touch.noted operator operand <;> rfl

/-- A script that has a touch that does not pass stops there. -/
lemma play_error (operator : Operator) (operand : String)
    (h : ¬ ∀ touch ∈ script, touch.passes) (P : Element Unit) : ∃ cause f,
    (Touch.recover cause ∈ script ∧ cause.faultClass ≠ .content ∨ Touch.refuse cause ∈ script) ∧
      (play operator operand script P).result = .error f ∧
      f.faultClass = cause.faultClass := by
  induction script generalizing P with
  | nil => exact absurd (by simp) h
  | cons touch later ih =>
    by_cases hfirst : touch.passes
    · obtain ⟨notes, hplay, -⟩ := play_touch operator operand P hfirst
      have hlater : ¬ ∀ touch ∈ later, touch.passes := fun hall => h fun t ht =>
        (List.mem_cons.1 ht).elim (fun e => e ▸ hfirst) (hall t)
      obtain ⟨cause, f, hmem, hresult, hclass⟩ := ih hlater (touch.apply P)
      refine ⟨cause, f, hmem.imp (And.imp_left (List.mem_cons_of_mem _))
        (List.mem_cons_of_mem _), ?_, hclass⟩
      rw [play_cons, bind_of_ok hplay]
      exact hresult
    · -- the first touch stops the script
      have hstop {cause : Cause} {f : Fault} (hplay : touch.play operator operand P =
          ⟨.error f, P, []⟩) (hf : f.faultClass = cause.faultClass)
          (hmem : touch = .recover cause ∧ cause.faultClass ≠ .content ∨ touch = .refuse cause) :
          ∃ cause f, (Touch.recover cause ∈ touch :: later ∧ cause.faultClass ≠ .content ∨
            Touch.refuse cause ∈ touch :: later) ∧
            (play operator operand (touch :: later) P).result = .error f ∧
            f.faultClass = cause.faultClass := by
        refine ⟨cause, f, ?_, ?_, hf⟩
        · rcases hmem with ⟨rfl, hclass⟩ | rfl
          · exact .inl ⟨List.mem_cons_self, hclass⟩
          · exact .inr List.mem_cons_self
        · rw [play_cons, bind_of_error hplay]
      cases touch with
      | recover cause =>
        have hclass : cause.faultClass ≠ .content := by simpa [Touch.passes] using hfirst
        refine hstop (f := ⟨cause, some ⟨operator, P.shell.describe, operand⟩⟩) ?_ rfl
          (.inl ⟨rfl, hclass⟩)
        cases hfound : cause.faultClass with
        | content => exact absurd hfound hclass
        | assertion => simp only [Touch.play, recover, Fault.faultClass, hfound]; rfl
        | other => simp only [Touch.play, recover, Fault.faultClass, hfound]; rfl
      | refuse cause => exact hstop rfl rfl (.inr rfl)
      | _ => exact absurd rfl hfirst

/-! ## Operators -/

variable {c : Setting} {scope : Value}

/-- An operator plays the script that it has for the element. -/
lemma execute_eq (c : Setting) (scope : Value) (operand : String) (op : AttributeOperator)
    (P : Element Unit) : execute c scope operand op P =
      guarded (.attr op) operand (undoAttribute operand op) () ()
        (play (.attr op) operand (op.script c P.shell scope operand)) P :=
  guarded_congr rfl

/-- An operator whose script is played to its end. -/
lemma execute_of_passes {op : AttributeOperator}
    (h : ∀ touch ∈ op.script c P.shell scope operand, touch.passes) : ∃ notes,
    execute c scope operand op P =
        ⟨.ok (), P.after (op.script c P.shell scope operand), notes⟩ ∧
      notes.map Fault.blur =
        (op.script c P.shell scope operand).filterMap (Touch.noted (.attr op) operand) := by
  obtain ⟨notes, hplay, hblur⟩ := play_of_passes (.attr op) operand h P
  exact ⟨notes, (execute_eq c scope operand op P).trans (guarded_of_ok hplay), hblur⟩

end Local

namespace AttributeOperator

variable {c : Setting} {t : Tree Unit} {scope : Value} {operand : String}
  {operator : AttributeOperator} {touches : List Touch} {noted : List Fault} {cause : Cause}

/-- What an operator does and notes when it does not stop the walk. -/
inductive Does (c : Setting) (t : Tree Unit) (scope : Value) (operand : String)
    (operator : AttributeOperator) : List Touch → List Fault → Prop
  /-- It plays its script. -/
  | done (h : ∀ touch ∈ operator.script c t scope operand, touch.passes) :
    Does c t scope operand operator (operator.script c t scope operand)
      ((operator.script c t scope operand).filterMap (Touch.noted (.attr operator) operand))
  /-- The model lacks something, and the operator is undone. -/
  | undone (cause : Cause) (h : operator.script c t scope operand = [.refuse cause])
    (hclass : cause.faultClass = .content) :
    Does c t scope operand operator (operator.undoScript t operand)
      [⟨cause, some ⟨.attr operator, "", operand⟩⟩]
  /-- The branch is given up. -/
  | abandoned (cause : Cause) (h : operator.script c t scope operand = [.refuse cause])
    (hclass : cause.faultClass = .other) :
    Does c t scope operand operator [] [⟨cause, some ⟨.attr operator, "", operand⟩⟩]

/-- A clause for an attribute stops for what is written wrongly only. -/
lemma clauseScript_strict {clause : Clause} :
    ∀ touch ∈ clauseScript c scope operand clause, touch.Strict := by
  unfold clauseScript
  split
  · exact List.forall_mem_singleton.2 rfl
  · rename_i path _
    cases hread : Path.read c.model scope path with
    | error found =>
      exact List.forall_mem_cons.2 ⟨trivial, List.forall_mem_singleton.2 (Path.read_class hread)⟩
    | ok value =>
      cases htext : attributeText? clause.name value with
      | error found =>
        simp only [Except.bind, htext]
        exact List.forall_mem_cons.2
          ⟨trivial, List.forall_mem_singleton.2 (.inr (attributeText?_class htext))⟩
      | ok text? =>
        simp only [Except.bind, htext]
        exact List.forall_mem_singleton.2 trivial

/-- The script of a name is that of a path. -/
lemma exists_pathScript (c : Setting) (scope : Value) (clause : Clause) :
    ∃ on path, nameScript c scope clause = pathScript c scope on path := by
  unfold nameScript
  split
  exact ⟨_, _, rfl⟩

/-- A clause for a class stops for what is written wrongly only. -/
lemma classScript_strict {clause : Clause} :
    ∀ touch ∈ classScript c scope operand clause, touch.Strict := by
  unfold classScript
  split
  · unfold toggleScript
    split
    · exact List.forall_mem_singleton.2 rfl
    · split
      · rename_i hholds
        exact List.forall_mem_singleton.2 (Condition.holds_class hholds)
      · rename_i hholds
        refine List.forall_mem_append.2 ⟨List.forall_mem_map.2 fun found hfound => ?_,
          List.forall_mem_singleton.2 trivial⟩
        exact .inl (Condition.lacking_class hholds found hfound)
  · obtain ⟨on, path, hscript⟩ := exists_pathScript c scope clause
    rw [hscript, pathScript]
    split
    · rename_i hread
      exact List.forall_mem_singleton.2 (Path.read_class hread)
    · simp
    · exact List.forall_mem_singleton.2 trivial
    · exact List.forall_mem_singleton.2 rfl

/-- A script of clauses stops only where the operand is written wrongly. -/
lemma clauses_strict {script : Clause → List Touch}
    (h : ∀ clause, ∀ touch ∈ script clause, touch.Strict) :
    ∀ touch ∈ (match Clause.parse operand with
      | .error cause => [Touch.refuse cause]
      | .ok clauses => clauses.flatMap script), touch.Strict := by
  split
  · rename_i hparse
    exact List.forall_mem_singleton.2 (Clause.parse_class hparse)
  · intro touch ht
    obtain ⟨clause, -, ht⟩ := List.mem_flatMap.1 ht
    exact h clause touch ht

/-- A script either stops only where the operand is written wrongly, or it is one touch. -/
lemma script_cases (c : Setting) (t : Tree Unit) (scope : Value) (operand : String)
    (operator : AttributeOperator) :
    (∀ touch ∈ operator.script c t scope operand, touch.Strict) ∨
      ((∃ touch, operator.script c t scope operand = [touch] ∧
          (touch.silent ∨ ∃ cause, touch = .refuse cause)) ∧
        ∃ touch, operator.undoScript t operand = [touch] ∧ touch.silent) := by
  have hundo : ∃ touch, removeValueScript t = [touch] ∧ touch.silent := by
    unfold removeValueScript
    split <;> exact ⟨_, rfl, rfl⟩
  cases operator with
  | attributes => exact .inl (clauses_strict fun _ => clauseScript_strict)
  | classes => exact .inl (clauses_strict fun _ => classScript_strict)
  | named which =>
    refine .inr ⟨?_, _, rfl, rfl⟩
    simp only [script, namedScript]
    split
    · exact ⟨_, rfl, .inr ⟨_, rfl⟩⟩
    · split
      · exact ⟨_, rfl, .inl rfl⟩
      · exact ⟨_, rfl, .inr ⟨_, rfl⟩⟩
  | value =>
    refine .inr ⟨?_, hundo⟩
    simp only [script, valueScript]
    split
    · exact ⟨_, rfl, .inr ⟨_, rfl⟩⟩
    · split
      · unfold removeValueScript
        split <;> exact ⟨_, rfl, .inl rfl⟩
      · split
        · exact ⟨_, rfl, .inr ⟨_, rfl⟩⟩
        · split <;> exact ⟨_, rfl, .inl rfl⟩

variable {P Q : Element Unit}

/-- An operator whose script is to stop stops and leaves the element as it is. -/
lemma play_refused (h : operator.script c P.shell scope operand = [.refuse cause]) :
    Local.play (.attr operator) operand (operator.script c P.shell scope operand) P =
      ⟨.error ⟨cause, none⟩, P, []⟩ := by
  rw [h, Local.play_singleton]
  rfl

/-- What undoes an operator that was refused is one touch. -/
lemma undo_of_refused (h : operator.script c t scope operand = [.refuse cause])
    (hclass : cause.faultClass = .content) :
    ∃ touch, operator.undoScript t operand = [touch] ∧ touch.silent := by
  rcases script_cases c t scope operand operator with hstrict | ⟨-, hundo⟩
  · rw [h] at hstrict
    have hassertion : cause.faultClass = .assertion := hstrict _ List.mem_cons_self
    rw [hclass] at hassertion
    cases hassertion
  · exact hundo

/-- An operator does what it is said to do. -/
lemma Does.execute (h : operator.Does c P.shell scope operand touches noted) : ∃ notes,
    Local.execute c scope operand operator P = ⟨.ok (), P.after touches, notes⟩ ∧
      notes.map Fault.blur = noted := by
  have hexecute := Local.execute_eq c scope operand operator P
  cases h with
  | done h => exact Local.execute_of_passes h
  | undone cause h hclass =>
    obtain ⟨undoing, hundo, hsilent⟩ := undo_of_refused h hclass
    rw [hundo]
    have hpasses : ∀ touch ∈ [undoing], touch.passes :=
      fun touch ht => List.mem_singleton.1 ht ▸ Touch.passes_of_silent hsilent
    obtain ⟨notes, hplay, hblur⟩ := Local.play_of_passes (.attr operator) operand hpasses P
    have hquiet : notes = [] := by
      simpa [Touch.noted_of_silent hsilent] using hblur
    subst hquiet
    refine ⟨[⟨cause, some ⟨.attr operator, P.shell.describe, operand⟩⟩], ?_, rfl⟩
    have hundone : Local.undoAttribute operand operator P = ⟨.ok (), P.after [undoing], []⟩ := by
      rw [← hplay, ← hundo]
      rfl
    exact hexecute.trans (Local.guarded_of_lacking (play_refused h) hclass hundone)
  | abandoned cause h hclass =>
    exact ⟨[⟨cause, some ⟨.attr operator, P.shell.describe, operand⟩⟩],
      hexecute.trans (Local.guarded_of_other (play_refused h) hclass), rfl⟩

/-- An operator that does not stop the walk does something. -/
lemma does_of_execute (h : (Local.execute c scope operand operator P).result = .ok ()) :
    ∃ touches noted, operator.Does c P.shell scope operand touches noted := by
  rw [Local.execute_eq] at h
  by_cases hpasses : ∀ touch ∈ operator.script c P.shell scope operand, touch.passes
  · exact ⟨_, _, .done hpasses⟩
  · rcases script_cases c P.shell scope operand operator with
      hstrict | ⟨⟨touch, hscript, htouch⟩, -⟩
    · -- a touch that stops the script stops the walk
      obtain ⟨cause, f, hmem, hresult, hclass⟩ :=
        Local.play_error (.attr operator) operand hpasses P
      have hassertion : f.faultClass = .assertion := by
        rw [hclass]
        rcases hmem with ⟨hmem, hne⟩ | hmem
        · exact (hstrict _ hmem).resolve_left hne
        · exact hstrict _ hmem
      exact absurd h (Local.guarded_assertion hresult hassertion ())
    · rw [hscript] at hpasses
      rcases htouch with hsilent | ⟨cause, rfl⟩
      · refine absurd (fun found hfound => ?_) hpasses
        rw [List.mem_singleton.1 hfound]
        exact Touch.passes_of_silent hsilent
      · cases hclass : cause.faultClass with
        | content => exact ⟨_, _, .undone cause hscript hclass⟩
        | other => exact ⟨_, _, .abandoned cause hscript hclass⟩
        | assertion =>
          exact absurd h
            (Local.guarded_assertion (congrArg Yield.result (play_refused hscript)) hclass ())

end AttributeOperator

/-! ## What an operator looks at -/

/-- Two elements look the same to the operators: they have the same tag and the same formatter. -/
def Element.ReadsLike (dialect : Dialect) (P Q : Element Unit) : Prop :=
  Q.head.tag = P.head.tag ∧ Q.head.attrs.lookup dialect.formatAttribute =
    P.head.attrs.lookup dialect.formatAttribute

namespace Element.ReadsLike

variable {c : Setting} {P Q : Element Unit} {scope : Value} {operand : String}
  {operator : AttributeOperator} {touches : List Touch} {noted : List Fault}

/-- Elements that look the same have the same of some tags. -/
lemma hasTag {dialect : Dialect} (h : P.ReadsLike dialect Q) (tags : List String) :
    Q.shell.hasTag tags = P.shell.hasTag tags := by
  simp only [Tree.hasTag, Element.shell, Tree.tag, h.1]

/-- Elements that look the same show a value in the same way. -/
lemma display (h : P.ReadsLike c.engine.dialect Q) (value : Value) :
    c.display Q.shell value = c.display P.shell value := by
  have hformat : Q.shell.attr? c.engine.dialect.formatAttribute =
      P.shell.attr? c.engine.dialect.formatAttribute := h.2
  unfold Setting.display
  rw [hformat]

/-- Elements that look the same have their operators undone in the same way. -/
lemma undoScript {dialect : Dialect} (h : P.ReadsLike dialect Q) :
    operator.undoScript Q.shell operand = operator.undoScript P.shell operand := by
  cases operator with
  | value =>
    simp only [AttributeOperator.undoScript, AttributeOperator.removeValueScript, h.hasTag]
  | _ => rfl

/-- A script is the same for elements that look the same, save where it refuses the element. -/
lemma script (h : P.ReadsLike c.engine.dialect Q) :
    operator.script c Q.shell scope operand = operator.script c P.shell scope operand ∨
      ∃ cause, operator.script c P.shell scope operand = [.refuse cause] ∧
        cause.faultClass = .assertion := by
  cases operator with
  | attributes => exact .inl rfl
  | classes => exact .inl rfl
  | named which =>
    simp only [AttributeOperator.script, AttributeOperator.namedScript, h.hasTag]
    split
    · exact .inr ⟨_, rfl, rfl⟩
    · exact .inl rfl
  | value =>
    refine .inl ?_
    simp only [AttributeOperator.script, AttributeOperator.valueScript,
      AttributeOperator.removeValueScript, h.hasTag, h.display]

/-- An operator does the same to elements that look the same. -/
lemma does (h : P.ReadsLike c.engine.dialect Q)
    (hdoes : operator.Does c P.shell scope operand touches noted) :
    operator.Does c Q.shell scope operand touches noted := by
  have hscript : operator.script c Q.shell scope operand =
      operator.script c P.shell scope operand := by
    rcases h.script with heq | ⟨cause, hrefuse, hclass⟩
    · exact heq
    · cases hdoes with
      | done hpasses =>
        rw [hrefuse] at hpasses
        exact absurd (hpasses _ List.mem_cons_self) (by simp [Touch.passes])
      | undone cause' hrefuse' hclass' =>
        rw [hrefuse] at hrefuse'
        cases hrefuse'
        rw [hclass] at hclass'
        cases hclass'
      | abandoned cause' hrefuse' hclass' =>
        rw [hrefuse] at hrefuse'
        cases hrefuse'
        rw [hclass] at hclass'
        cases hclass'
  cases hdoes with
  | done hpasses =>
    rw [← hscript] at hpasses ⊢
    exact .done hpasses
  | undone cause hrefuse hclass =>
    rw [← h.undoScript]
    exact .undone cause (hscript.trans hrefuse) hclass
  | abandoned cause hrefuse hclass => exact .abandoned cause (hscript.trans hrefuse) hclass

end Element.ReadsLike

end TreeTemplate
