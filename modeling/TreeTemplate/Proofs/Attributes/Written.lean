import TreeTemplate.Proofs.Attributes.Effects

/-!
# What an operator writes

The attributes and the classes that an operator writes are known from its operand, as long as every
clause for a class says which class it is about.

Main statements:

* `covers_script`, `covers_undoScript` — an operator writes what its operand says;
* `Does.apart` — the touches of an operator do not undo one another.
-/

namespace TreeTemplate

namespace AttributeOperator

variable {c : Setting} {t : Tree Unit} {scope : Value} {operand : String}
  {operator : AttributeOperator} {touch : Touch} {touches : List Touch} {noted : List Fault}

/-- The attributes that the clauses of an operand name. -/
def clauseNames (operand : String) : List String :=
  match Clause.parse operand with
  | .error _ => []
  | .ok clauses => clauses.map (·.name)

/-- The classes that the clauses of an operand name behind their conditions. -/
def classNames (operand : String) : List String :=
  match Clause.parse operand with
  | .error _ => []
  | .ok clauses => clauses.filterMap (·.value?)

/-- Every clause of an operand has a condition and a class. -/
def Conditional (operand : String) : Prop :=
  ∀ clauses, Clause.parse operand = .ok clauses → ∀ clause ∈ clauses, clause.value?.isSome

instance (operand : String) : Decidable (Conditional operand) :=
  match h : Clause.parse operand with
  | .error _ => isTrue fun clauses h' => by rw [h] at h'; cases h'
  | .ok clauses =>
    decidable_of_iff (∀ clause ∈ clauses, clause.value?.isSome) (by
      simp only [Conditional, h, Except.ok.injEq, forall_eq'])

/-- The attributes that an operator writes at an element. -/
def written {ι : Type} (t : Tree ι) (operand : String) : AttributeOperator → List String
  | attributes => clauseNames operand
  | classes => ["class"]
  | named which => [which.name]
  | value => if t.hasTag valueTags then ["value"] else []

/-- A touch is one of those that the operand of an operator tells. -/
def Covers (t : Tree Unit) (operand : String) (operator : AttributeOperator) : Touch → Prop
  | .put name _ => operator ≠ .classes ∧ name ∈ operator.written t operand
  | .toggle name _ => operator = .classes ∧ (Conditional operand → name ∈ classNames operand)
  | .removeText => operator = .value ∧ t.hasTag valueTags = false
  | .fillText _ => operator = .value ∧ t.hasTag valueTags = false
  | .recover _ => True
  | .refuse _ => True

/-- The name of a clause is among those of its operand. -/
lemma mem_clauseNames {clauses : List Clause} {clause : Clause}
    (h : Clause.parse operand = .ok clauses) (hm : clause ∈ clauses) :
    clause.name ∈ clauseNames operand := by
  simp only [clauseNames, h]
  exact List.mem_map_of_mem hm

/-- The class of a clause is among those of its operand. -/
lemma mem_classNames {clauses : List Clause} {clause : Clause} {name : String}
    (h : Clause.parse operand = .ok clauses) (hm : clause ∈ clauses)
    (hname : clause.value? = some name) : name ∈ classNames operand := by
  simp only [classNames, h]
  exact List.mem_filterMap.2 ⟨clause, hm, hname⟩

/-- The touches of a clause for an attribute are among those that the operand tells. -/
lemma covers_clauseScript {clauses : List Clause} {clause : Clause}
    (hparse : Clause.parse operand = .ok clauses) (hm : clause ∈ clauses) :
    ∀ touch ∈ clauseScript c scope operand clause, Covers t operand .attributes touch := by
  have hname : Covers t operand .attributes (.put clause.name none) :=
    ⟨by simp, mem_clauseNames hparse hm⟩
  unfold clauseScript
  split
  · exact List.forall_mem_singleton.2 trivial
  · split
    · exact List.forall_mem_singleton.2 hname
    · exact List.forall_mem_cons.2 ⟨hname, List.forall_mem_singleton.2 trivial⟩

/-- The touches of a clause for a class are among those that the operand tells. -/
lemma covers_classScript {clauses : List Clause} {clause : Clause}
    (hparse : Clause.parse operand = .ok clauses) (hm : clause ∈ clauses) :
    ∀ touch ∈ classScript c scope operand clause, Covers t operand .classes touch := by
  unfold classScript
  split
  · rename_i name hvalue
    unfold toggleScript
    split
    · exact List.forall_mem_singleton.2 trivial
    · split
      · exact List.forall_mem_singleton.2 trivial
      · exact List.forall_mem_append.2 ⟨List.forall_mem_map.2 fun _ _ => trivial,
          List.forall_mem_singleton.2 ⟨rfl, fun _ => mem_classNames hparse hm hvalue⟩⟩
  · rename_i hvalue
    have hbare (hconditional : Conditional operand) : False := by
      have := hconditional clauses hparse clause hm
      rw [hvalue] at this
      cases this
    obtain ⟨on, path, hscript⟩ := exists_pathScript c scope clause
    rw [hscript, pathScript]
    split
    · exact List.forall_mem_singleton.2 trivial
    · simp
    · exact List.forall_mem_singleton.2 ⟨rfl, fun h => (hbare h).elim⟩
    · exact List.forall_mem_singleton.2 trivial

/-- The touches of an operand are among those that it tells if those of each clause are. -/
lemma covers_clauses {script : Clause → List Touch} {operator : AttributeOperator}
    (h : ∀ clauses, Clause.parse operand = .ok clauses → ∀ clause ∈ clauses,
      ∀ touch ∈ script clause, operator.Covers t operand touch) :
    ∀ touch ∈ (match Clause.parse operand with
      | .error cause => [Touch.refuse cause]
      | .ok clauses => clauses.flatMap script), operator.Covers t operand touch := by
  split
  · exact List.forall_mem_singleton.2 trivial
  · rename_i clauses hparse
    intro touch ht
    obtain ⟨clause, hm, ht⟩ := List.mem_flatMap.1 ht
    exact h clauses hparse clause hm touch ht

/-- The touches that remove a value are among those that the operator tells. -/
lemma covers_removeValueScript :
    ∀ touch ∈ removeValueScript t, Covers t operand .value touch := by
  unfold removeValueScript
  split
  · rename_i htag
    exact List.forall_mem_singleton.2 (by simp [Covers, written, htag])
  · rename_i htag
    exact List.forall_mem_singleton.2 ⟨rfl, by simpa using htag⟩

/-- An operator writes what its operand says. -/
lemma covers_script (operator : AttributeOperator) :
    ∀ touch ∈ operator.script c t scope operand, operator.Covers t operand touch := by
  cases operator with
  | attributes => exact covers_clauses fun _ hparse _ hm => covers_clauseScript hparse hm
  | classes => exact covers_clauses fun _ hparse _ hm => covers_classScript hparse hm
  | named which =>
    simp only [script, namedScript]
    split
    · exact List.forall_mem_singleton.2 trivial
    · split
      · exact List.forall_mem_singleton.2 ⟨by simp, List.mem_singleton.2 rfl⟩
      · exact List.forall_mem_singleton.2 trivial
  | value =>
    simp only [script, valueScript]
    split
    · exact List.forall_mem_singleton.2 trivial
    · split
      · exact covers_removeValueScript
      · split
        · exact List.forall_mem_singleton.2 trivial
        · split
          · rename_i htag
            exact List.forall_mem_singleton.2 (by simp [Covers, written, htag])
          · rename_i htag
            exact List.forall_mem_singleton.2 ⟨rfl, by simpa using htag⟩

/-- Undoing an operator removes what its operand says. -/
lemma covers_undoScript (operator : AttributeOperator) :
    ∀ touch ∈ operator.undoScript t operand, operator.Covers t operand touch := by
  cases operator with
  | attributes =>
    simp only [undoScript, List.map_eq_flatMap]
    refine covers_clauses fun _ hparse _ hm => List.forall_mem_singleton.2 ?_
    exact ⟨by simp, mem_clauseNames hparse hm⟩
  | classes =>
    refine covers_clauses fun _ hparse _ hm => ?_
    unfold undoClause
    split
    · rename_i hvalue
      exact List.forall_mem_singleton.2 ⟨rfl, fun _ => mem_classNames hparse hm hvalue⟩
    · simp
  | named which => exact List.forall_mem_singleton.2 ⟨by simp, List.mem_singleton.2 rfl⟩
  | value => exact covers_removeValueScript

/-- A touch that an operator covers writes an attribute that the operator writes. -/
lemma Covers.name_mem (h : operator.Covers t operand touch) {name : String}
    (hname : touch.name? = some name) : name ∈ operator.written t operand := by
  cases touch with
  | put found value? =>
    cases hname
    exact h.2
  | toggle found on =>
    cases hname
    obtain ⟨rfl, -⟩ := h
    exact List.mem_singleton.2 rfl
  | _ => cases hname

/-- What an operator does is what it covers. -/
lemma Does.covers (h : operator.Does c t scope operand touches noted) :
    ∀ touch ∈ touches, operator.Covers t operand touch := by
  cases h with
  | done => exact covers_script operator
  | undone => exact covers_undoScript operator
  | abandoned => simp

/-! ## Touches that are apart -/

/-- Touches that write different names are apart. -/
lemma apart_of_name {touch other : Touch}
    (h : ∀ name, touch.name? = some name → other.name? ≠ some name) : touch.Apart other := by
  cases touch with
  | toggle name on =>
    cases other with
    | toggle => exact absurd rfl (h "class" rfl)
    | _ => exact h
  | _ => exact h

/-- The touches for several clauses are apart when those for two of them are. -/
lemma pairwise_clauses {clauses : List Clause} {script : Clause → List Touch}
    {R : Clause → Clause → Prop} (hclauses : clauses.Pairwise R)
    (hself : ∀ clause, (script clause).Pairwise Touch.Apart)
    (happart : ∀ a b, R a b → ∀ touch ∈ script a, ∀ other ∈ script b, touch.Apart other) :
    (clauses.flatMap script).Pairwise Touch.Apart :=
  List.pairwise_flatMap.2 ⟨fun clause _ => hself clause,
    hclauses.imp fun {a} {b} hab touch ht other ho => happart a b hab touch ht other ho⟩

/-- A clause writes the attribute that it names. -/
lemma name_clauseScript {clause : Clause} {name : String}
    (h : touch ∈ clauseScript c scope operand clause) (hname : touch.name? = some name) :
    name = clause.name := by
  unfold clauseScript at h
  split at h
  · rw [List.mem_singleton.1 h] at hname
    cases hname
  · split at h
    · rw [List.mem_singleton.1 h] at hname
      cases hname
      rfl
    · rcases List.mem_cons.1 h with rfl | h
      · cases hname
        rfl
      · rw [List.mem_singleton.1 h] at hname
        cases hname

/-- The touches of a clause for an attribute are apart. -/
lemma pairwise_clauseScript (clause : Clause) :
    (clauseScript c scope operand clause).Pairwise Touch.Apart := by
  unfold clauseScript
  split
  · exact List.pairwise_singleton _ _
  · split
    · exact List.pairwise_singleton _ _
    · exact List.pairwise_pair.2 fun _ _ h => by cases h

/-- A clause with a condition and a class adds or removes this class and no other one. -/
lemma classScript_toggle {clause : Clause} {name : String} (hvalue : clause.value? = some name)
    (h : touch ∈ classScript c scope operand clause) :
    touch.name? = none ∨ ∃ on, touch = .toggle name on := by
  unfold classScript at h
  rw [hvalue] at h
  unfold toggleScript at h
  dsimp only at h
  split at h
  · rw [List.mem_singleton.1 h]
    exact .inl rfl
  · split at h
    · rw [List.mem_singleton.1 h]
      exact .inl rfl
    · rcases List.mem_append.1 h with h | h
      · obtain ⟨_, _, rfl⟩ := List.mem_map.1 h
        exact .inl rfl
      · exact .inr ⟨_, List.mem_singleton.1 h⟩

/-- The classes in an operand are different ones, each behind a condition of its own. -/
structure DistinctClasses (operand : String) : Prop where
  conditional : Conditional operand
  nodup : (classNames operand).Nodup
  isClass : ∀ name ∈ classNames operand, IsClass name

/-- The touches of a clause for a class are apart. -/
lemma pairwise_classScript (clause : Clause) :
    (classScript c scope operand clause).Pairwise Touch.Apart := by
  unfold classScript
  split
  · unfold toggleScript
    split
    · exact List.pairwise_singleton _ _
    · split
      · exact List.pairwise_singleton _ _
      · refine List.pairwise_append.2 ⟨?_, List.pairwise_singleton _ _, ?_⟩
        · exact List.pairwise_map.2 (List.pairwise_of_forall fun _ _ _ h => by cases h)
        · exact List.forall_mem_map.2 fun _ _ _ _ _ h => by cases h
  · obtain ⟨on, path, hscript⟩ := exists_pathScript c scope clause
    rw [hscript, pathScript]
    split
    · exact List.pairwise_singleton _ _
    · exact .nil
    · exact List.pairwise_singleton _ _
    · exact List.pairwise_singleton _ _

/-- The clauses of an operand with different classes have classes, which are different. -/
lemma DistinctClasses.pairwise {clauses : List Clause} (h : DistinctClasses operand)
    (hparse : Clause.parse operand = .ok clauses) : clauses.Pairwise fun a b =>
      ∃ x y, a.value? = some x ∧ b.value? = some y ∧ x ≠ y := by
  have hnodup := h.nodup
  simp only [classNames, hparse] at hnodup
  have hpairs := List.pairwise_filterMap.1 hnodup
  refine hpairs.imp_of_mem fun {a} {b} ha hb hne => ?_
  obtain ⟨x, hx⟩ := Option.isSome_iff_exists.1 (h.conditional clauses hparse a ha)
  obtain ⟨y, hy⟩ := Option.isSome_iff_exists.1 (h.conditional clauses hparse b hb)
  exact ⟨x, y, hx, hy, hne x hx y hy⟩

/-- The touches of an operator that writes different attributes and classes are apart. -/
lemma pairwise_script (hwritten : (operator.written t operand).Nodup)
    (hclasses : operator = .classes → DistinctClasses operand) :
    (operator.script c t scope operand).Pairwise Touch.Apart := by
  cases operator with
  | attributes =>
    simp only [script]
    cases hparse : Clause.parse operand with
    | error cause => exact List.pairwise_singleton _ _
    | ok clauses =>
      simp only [written, clauseNames, hparse] at hwritten
      exact pairwise_clauses (List.pairwise_map.1 hwritten) pairwise_clauseScript
        fun a b hab touch ht other ho => apart_of_name fun name hname hname' =>
          hab ((name_clauseScript ht hname).symm.trans (name_clauseScript ho hname'))
  | classes =>
    simp only [script]
    cases hparse : Clause.parse operand with
    | error cause => exact List.pairwise_singleton _ _
    | ok clauses =>
      refine pairwise_clauses ((hclasses rfl).pairwise hparse) pairwise_classScript
        fun a b hpair touch ht other ho => ?_
      obtain ⟨x, y, hx, hy, hne⟩ := hpair
      rcases classScript_toggle hx ht with hname | ⟨on, rfl⟩
      · exact apart_of_name fun name hname' => by rw [hname] at hname'; cases hname'
      · rcases classScript_toggle hy ho with hname | ⟨on', rfl⟩
        · exact apart_of_name fun name _ hname' => by rw [hname] at hname'; cases hname'
        · exact hne
  | named which =>
    simp only [script, namedScript]
    split
    · exact List.pairwise_singleton _ _
    · split <;> exact List.pairwise_singleton _ _
  | value =>
    simp only [script, valueScript]
    split
    · exact List.pairwise_singleton _ _
    · split
      · unfold removeValueScript
        split <;> exact List.pairwise_singleton _ _
      · split
        · exact List.pairwise_singleton _ _
        · split <;> exact List.pairwise_singleton _ _

/-- The touches of an operator do not undo one another when it writes different attributes and
different classes. -/
lemma Does.apart (h : operator.Does c t scope operand touches noted)
    (hwritten : (operator.written t operand).Nodup)
    (hclasses : operator = .classes → DistinctClasses operand) :
    touches.Pairwise Touch.Apart ∧ ∀ touch ∈ touches, touch.Proper := by
  have hproper : ∀ touch ∈ touches, touch.Proper := by
    intro touch ht
    have hcovers := h.covers touch ht
    cases touch with
    | toggle name on =>
      obtain ⟨hop, hname⟩ := hcovers
      exact (hclasses hop).isClass name (hname (hclasses hop).conditional)
    | _ => trivial
  refine ⟨?_, hproper⟩
  cases h with
  | done => exact pairwise_script hwritten hclasses
  | undone cause hscript hclass =>
    obtain ⟨undoing, hundo, -⟩ := undo_of_refused hscript hclass
    rw [hundo]
    exact List.pairwise_singleton _ _
  | abandoned => exact .nil

end AttributeOperator

end TreeTemplate
