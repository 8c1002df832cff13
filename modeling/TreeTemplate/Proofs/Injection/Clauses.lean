import TreeTemplate.Proofs.Courses.Alike

/-!
# Operators that read several paths

A path can give null in one scope while the model lacks it in another one. Conditions and clauses
are evaluated in both scopes, path by path: they come to the same, and each path that the model
lacks leaves one fault behind that null does not leave.

Main statements:

* `Condition.holds_same` — conditions hold for null as for what the model lacks;
* `Walk.Alike.setClause`, `Walk.Alike.classClause` — clauses of attributes and of classes;
* `Walk.Alike.ofClauses`, `Walk.Alike.conditional` — the operators.
-/

namespace TreeTemplate

/-! ## Paths in two scopes -/

namespace Path

variable {model scope scope' : Value} {operator : Operator} {operand path : String}
  {paths later : List String} {noted noted' first first' : List Fault}

/-- A path gives null in the first scope, and in the second one the model lacks it. -/
def LacksNull (model scope scope' : Value) (path : String) : Prop :=
  read model scope path = .ok .null ∧
    ∃ cause, read model scope' path = .error cause ∧ cause.faultClass = .content

/-- A path gives the same in both scopes, unless it gives null in the first one and the model lacks
it in the second one. -/
def SameOrLacking (model scope scope' : Value) (path : String) : Prop :=
  read model scope' path = read model scope path ∨ LacksNull model scope scope' path

/-- What is recorded for some paths in two scopes: the same for a path that gives the same in both
scopes; for one that the model lacks in the second scope nothing in the first one and the fault of
the operator in the second one. -/
inductive Notes (model scope scope' : Value) (operator : Operator) (operand : String) :
    List String → List Fault → List Fault → Prop
  | nil : Notes model scope scope' operator operand [] [] []
  | same {path : String} {paths : List String} {first noted noted' : List Fault}
    (h : read model scope' path = read model scope path)
    (later : Notes model scope scope' operator operand paths noted noted') :
    Notes model scope scope' operator operand (path :: paths) (first ++ noted) (first ++ noted')
  | lacks {path : String} {paths : List String} {noted noted' : List Fault} {cause : Cause}
    {element : String} (hnull : read model scope path = .ok .null)
    (hlacks : read model scope' path = .error cause) (hcause : cause.faultClass = .content)
    (later : Notes model scope scope' operator operand paths noted noted') :
    Notes model scope scope' operator operand (path :: paths) noted
      (.ofSite ⟨operator, element, operand⟩ cause :: noted')

/-- What is recorded for the paths that were read. These are all paths, or those before the operator
stopped. -/
def Noted (model scope scope' : Value) (operator : Operator) (operand : String)
    (paths : List String) (succeeds : Bool) (noted noted' : List Fault) : Prop :=
  ∃ evaluated, evaluated <+: paths ∧ (succeeds = true → evaluated = paths) ∧
    Notes model scope scope' operator operand evaluated noted noted'

/-- What is recorded for some paths comes before what is recorded for later ones. -/
lemma Notes.append (h : Notes model scope scope' operator operand paths noted noted')
    (h' : Notes model scope scope' operator operand later first first') :
    Notes model scope scope' operator operand (paths ++ later) (noted ++ first)
      (noted' ++ first') := by
  induction h with
  | nil => exact h'
  | same h _ ih =>
    rw [List.append_assoc, List.append_assoc]
    exact .same h ih
  | lacks hnull hlacks hcause _ ih => exact .lacks hnull hlacks hcause ih

namespace Noted

/-- Before anything is read an operator may stop. -/
lemma stop : Noted model scope scope' operator operand paths false [] [] :=
  ⟨[], List.nil_prefix, fun h => (nomatch h), .nil⟩

/-- What is recorded for all paths is recorded, whether the operator stops or not. -/
lemma of_notes (h : Notes model scope scope' operator operand paths noted noted') (ok : Bool) :
    Noted model scope scope' operator operand paths ok noted noted' :=
  ⟨paths, List.prefix_refl paths, fun _ => rfl, h⟩

/-- A path that gives the same in both scopes. -/
lemma same (h : read model scope' path = read model scope path) (noted : List Fault) :
    Notes model scope scope' operator operand [path] noted noted := by
  have hnotes : Notes model scope scope' operator operand [path] (noted ++ []) (noted ++ []) :=
    .same h .nil
  rwa [List.append_nil] at hnotes

/-- What is recorded before an operator stops is what it records, whatever paths are left. -/
lemma append_stop (h : Noted model scope scope' operator operand paths false noted noted') :
    Noted model scope scope' operator operand (paths ++ later) false noted noted' := by
  obtain ⟨evaluated, hprefix, -, hnotes⟩ := h
  exact ⟨evaluated, hprefix.trans (List.prefix_append paths later), fun h => (nomatch h), hnotes⟩

/-- What is recorded for some paths comes before what is recorded for later ones, where the operator
goes on. -/
lemma append {ok : Bool} (h : Noted model scope scope' operator operand paths true noted noted')
    (h' : Noted model scope scope' operator operand later ok first first') :
    Noted model scope scope' operator operand (paths ++ later) ok (noted ++ first)
      (noted' ++ first') := by
  obtain ⟨evaluated, -, hall, hnotes⟩ := h
  obtain ⟨evaluated', hprefix, hall', hnotes'⟩ := h'
  obtain rfl := hall rfl
  exact ⟨evaluated ++ evaluated', (List.prefix_append_right_inj _).2 hprefix,
    fun hok => by rw [hall' hok], hnotes.append hnotes'⟩

end Noted

end Path

/-! ## Conditions -/

namespace Condition

variable {model scope scope' : Value}

/-- The paths of the statements of a condition that are evaluated: up to the first one that does not
hold. -/
def evaluated (model scope : Value) : Condition → List String
  | [] => []
  | s :: later =>
    match s.holds model scope with
    | .ok (true, _) => s.path :: evaluated model scope later
    | _ => [s.path]

/-- Statements do not tell null from what is lacking. -/
lemma statement_same (operator : Operator) (operand : String) {s : Statement}
    (h : Path.SameOrLacking model scope scope' s.path) :
    (∃ cause, s.holds model scope = .error cause ∧ s.holds model scope' = .error cause) ∨
      ∃ held lacking lacking', s.holds model scope = .ok (held, lacking) ∧
        s.holds model scope' = .ok (held, lacking') ∧
        ∀ element, Path.Notes model scope scope' operator operand [s.path]
          (lacking.map (.ofSite ⟨operator, element, operand⟩))
          (lacking'.map (.ofSite ⟨operator, element, operand⟩)) := by
  rcases h with hsame | ⟨hnull, cause, hlacks, hcause⟩
  · have hholds : s.holds model scope' = s.holds model scope := by
      unfold Statement.holds
      rw [hsame]
    rw [hholds]
    rcases s.holds model scope with cause | ⟨held, lacking⟩
    · exact .inl ⟨cause, rfl, rfl⟩
    · exact .inr ⟨held, lacking, lacking, rfl, rfl, fun _ => Path.Noted.same hsame _⟩
  · refine .inr ⟨s.test.passes .null != s.negated, [], [cause], ?_, ?_, fun element =>
      .lacks hnull hlacks hcause .nil⟩
    · simp only [Statement.holds, hnull]
    · simp only [Statement.holds, hlacks, hcause, if_true]

/-- Neither do conditions. -/
lemma holds_same (operator : Operator) (operand : String) {condition : Condition}
    (h : ∀ path ∈ condition.evaluated model scope, Path.SameOrLacking model scope scope' path) :
    (∃ cause, condition.holds model scope = .error cause ∧
        condition.holds model scope' = .error cause) ∨
      ∃ held lacking lacking', condition.holds model scope = .ok (held, lacking) ∧
        condition.holds model scope' = .ok (held, lacking') ∧
        ∀ element, Path.Notes model scope scope' operator operand
          (condition.evaluated model scope)
          (lacking.map (.ofSite ⟨operator, element, operand⟩))
          (lacking'.map (.ofSite ⟨operator, element, operand⟩)) := by
  induction condition with
  | nil => exact .inr ⟨true, [], [], rfl, rfl, fun _ => .nil⟩
  | cons s later ih =>
    have hhead : s.path ∈ evaluated model scope (s :: later) := by
      unfold evaluated
      split <;> exact List.mem_cons_self
    rcases statement_same operator operand (h s.path hhead) with
      ⟨cause, e, e'⟩ | ⟨held, first, first', e, e', hfirst⟩
    · exact .inl ⟨cause, by simp only [holds, e]; rfl, by simp only [holds, e']; rfl⟩
    simp only [evaluated, e] at h ⊢
    cases held with
    | false =>
      exact .inr ⟨false, first, first', by simp only [holds, e]; rfl, by simp only [holds, e']; rfl,
        hfirst⟩
    | true =>
      rcases ih fun path hpath => h path (List.mem_cons_of_mem _ hpath) with
        ⟨cause, elater, elater'⟩ | ⟨held, second, second', elater, elater', hsecond⟩
      · refine .inl ⟨cause, ?_, ?_⟩
        · simp only [holds, e, bind, Except.bind, if_true, elater]
        · simp only [holds, e', bind, Except.bind, if_true, elater']
      · refine .inr ⟨held, first ++ second, first' ++ second', ?_, ?_, fun element => ?_⟩
        · simp only [holds, e, bind, Except.bind, if_true, elater]
          rfl
        · simp only [holds, e', bind, Except.bind, if_true, elater']
          rfl
        · rw [List.map_append, List.map_append]
          exact (hfirst element).append (hsecond element)

end Condition

/-! ## Operators that read several paths -/

/-- Whether a clause of classes that has no colon adds the class, and the path that it reads. -/
def Clause.bare (clause : Clause) : Bool × String :=
  match clause.name.toList with
  | '!' :: path => (false, String.ofList path)
  | _ => (true, clause.name)

/-- The paths that are evaluated of a condition, if it is one. -/
def Condition.evaluatedOf (model scope : Value) : Except OperandError Condition → List String
  | .ok condition => condition.evaluated model scope
  | .error _ => []

/-- The paths that a clause of classes reads. -/
def Clause.classPaths (model scope : Value) (operand : String) (clause : Clause) : List String :=
  match clause.value? with
  | some _ =>
    Condition.evaluatedOf model scope (Condition.parseAt operand clause.start clause.name.toList)
  | none => [clause.bare.2]

/-- The paths of all clauses of an operand. -/
def Clause.pathsOf (paths : Clause → List String) (operand : String) : List String :=
  match parse operand with
  | .ok clauses => clauses.flatMap paths
  | .error _ => []

/-- A clause without a colon reads its path, and adds or removes the class that it finds. -/
lemma AttributeOperator.nameClause_eq (c : Setting) (n : NodeId) (scope : Value) (operand : String)
    (clause : Clause) : nameClause c n scope operand clause =
      match Path.read c.model scope clause.bare.2 with
      | .error cause => Walk.recover n (.attr .classes) operand cause
      | .ok .null => pure ()
      | .ok (.string name) => toggle n (classOf name) clause.bare.1
      | .ok found => Walk.refuse (.classKind clause.bare.2 found.kind) :=
  rfl

namespace Walk.Alike

variable {c : Setting} {n : NodeId} {scope scope' : Value} {operand : String} {clause : Clause}

/-- Setting or removing an attribute is the same whatever the model holds. -/
lemma putAttribute {p : Bool → List Fault → List Fault → Prop} {name : String}
    (value? : Option String) (h : p true [] []) :
    Alike n p (Walk.putAttribute n name value?) (Walk.putAttribute n name value?) := by
  cases value? with
  | some value => exact editNode (fun t => (t.restyles_mapAttrs _).label) h
  | none => exact editNode (fun t => (t.restyles_mapAttrs _).label) h

/-- Adding or removing a class is the same whatever the model holds. -/
lemma toggle {p : Bool → List Fault → List Fault → Prop} {name : String} (on : Bool)
    (h : p true [] []) :
    Alike n p (AttributeOperator.toggle n name on) (AttributeOperator.toggle n name on) := by
  cases on with
  | true => exact editNode (fun t => (t.restyles_addClass name).label) h
  | false => exact editNode (fun t => (t.restyles_removeClass name).label) h

/-- A clause sets no attribute for null, and none where the model lacks the value. -/
lemma setClause
    (h : ∀ path, clause.value? = some path → Path.SameOrLacking c.model scope scope' path) :
    Alike n (Path.Noted c.model scope scope' (.attr .attributes) operand clause.value?.toList)
      (AttributeOperator.setClause c n scope operand clause)
      (AttributeOperator.setClause c n scope' operand clause) := by
  unfold AttributeOperator.setClause
  cases hvalue : clause.value? with
  | none => exact refuse rfl .stop
  | some path =>
    rcases h path hvalue with hsame | ⟨hnull, cause, hlacks, hcause⟩
    · simp only [hsame]
      cases e : (Path.read c.model scope path).bind (attributeText? clause.name) with
      | ok text? => exact putAttribute text? (.of_notes (Path.Noted.same hsame []) true)
      | error cause =>
        have hclass : cause.faultClass = .content ∨ cause.faultClass = .assertion := by
          cases hread : Path.read c.model scope path with
          | error found =>
            rw [hread] at e
            cases e
            exact Path.read_class hread
          | ok value =>
            rw [hread] at e
            exact .inr (attributeText?_class e)
        refine bind_after (putAttribute none ⟨rfl, rfl, rfl⟩) fun _ => ?_
        rcases hclass with hclass | hclass
        · exact recover hclass fun element => .of_notes (Path.Noted.same hsame _) true
        · exact recover_wrong hclass .stop
    · have htext : (Path.read c.model scope path).bind (attributeText? clause.name) = .ok none := by
        rw [hnull]
        rfl
      have hfail : (Path.read c.model scope' path).bind (attributeText? clause.name) =
          .error cause := by
        rw [hlacks]
        rfl
      simp only [htext, hfail]
      have hrecover : Alike n
          (Path.Noted c.model scope scope' (.attr .attributes) operand (some path).toList)
          (Pure.pure ()) (Walk.recover n (.attr .attributes) operand cause) :=
        recover_lacking hcause fun element => .of_notes (.lacks hnull hlacks hcause .nil) true
      have hput := bind_after (w := Walk.putAttribute n clause.name none)
        (putAttribute none ⟨rfl, rfl, rfl⟩) fun _ => hrecover
      rwa [bind_pure_unit] at hput

/-- A condition before a colon toggles the class for null as for what the model lacks. -/
lemma toggleClause {name : String} (hvalue : clause.value? = some name)
    (h : ∀ path ∈ clause.classPaths c.model scope operand,
      Path.SameOrLacking c.model scope scope' path) :
    Alike n (Path.Noted c.model scope scope' (.attr .classes) operand
        (clause.classPaths c.model scope operand))
      (AttributeOperator.toggleClause c n scope operand clause name)
      (AttributeOperator.toggleClause c n scope' operand clause name) := by
  unfold AttributeOperator.toggleClause
  simp only [Clause.classPaths, hvalue] at h ⊢
  cases hparse : Condition.parseAt operand clause.start clause.name.toList with
  | error error => exact refuse rfl .stop
  | ok condition =>
    rw [hparse] at h
    simp only [checkOperand_ok_bind, Condition.evaluatedOf] at h ⊢
    rcases Condition.holds_same (.attr .classes) operand h with
      ⟨cause, e, e'⟩ | ⟨on, lacking, lacking', e, e', hnotes⟩
    · simp only [e, e', check_error_bind]
      exact refuse (Condition.holds_class e) .stop
    · simp only [e, e', check_ok_bind]
      refine bind_before (recoverAll (Condition.lacking_class e) (Condition.lacking_class e')
        fun element => .of_notes (hnotes element) true) fun _ => toggle on ⟨rfl, rfl, rfl⟩

/-- A class that null names is none, as is one that the model lacks. -/
lemma nameClause (h : Path.SameOrLacking c.model scope scope' clause.bare.2) :
    Alike n (Path.Noted c.model scope scope' (.attr .classes) operand [clause.bare.2])
      (AttributeOperator.nameClause c n scope operand clause)
      (AttributeOperator.nameClause c n scope' operand clause) := by
  rw [AttributeOperator.nameClause_eq, AttributeOperator.nameClause_eq]
  rcases h with hsame | ⟨hnull, cause, hlacks, hcause⟩
  · have hnotes (noted : List Fault) : Path.Notes c.model scope scope' (.attr .classes) operand
        [clause.bare.2] noted noted := Path.Noted.same hsame noted
    simp only [hsame]
    rcases hread : Path.read c.model scope clause.bare.2 with cause | value
    · rcases Path.read_class hread with hclass | hclass
      · exact recover hclass fun element => .of_notes (hnotes _) true
      · exact recover_wrong hclass .stop
    · cases value with
      | null => exact pure () (.of_notes (hnotes []) true)
      | string name => exact toggle _ (.of_notes (hnotes []) true)
      | bool _ => exact refuse rfl .stop
      | integer _ => exact refuse rfl .stop
      | float _ => exact refuse rfl .stop
      | list _ => exact refuse rfl .stop
      | map _ => exact refuse rfl .stop
  · simp only [hnull, hlacks]
    exact recover_lacking hcause fun element => .of_notes (.lacks hnull hlacks hcause .nil) true

/-- A clause for classes is the same but for what is recorded for its paths. -/
lemma classClause (h : ∀ path ∈ clause.classPaths c.model scope operand,
      Path.SameOrLacking c.model scope scope' path) :
    Alike n (Path.Noted c.model scope scope' (.attr .classes) operand
        (clause.classPaths c.model scope operand))
      (AttributeOperator.classClause c n scope operand clause)
      (AttributeOperator.classClause c n scope' operand clause) := by
  unfold AttributeOperator.classClause
  cases hvalue : clause.value? with
  | some name => exact toggleClause hvalue h
  | none =>
    simp only [Clause.classPaths, hvalue] at h ⊢
    exact nameClause (h _ (List.mem_singleton_self _))

/-- Clauses one after another record what each of them does. -/
lemma clauses {operator : Operator} {clauses : List Clause} {paths : Clause → List String}
    {f f' : Clause → Walk Unit}
    (h : ∀ clause ∈ clauses,
      Alike n (Path.Noted c.model scope scope' operator operand (paths clause)) (f clause)
        (f' clause)) :
    Alike n (Path.Noted c.model scope scope' operator operand (clauses.flatMap paths))
      (clauses.forM f) (clauses.forM f') := by
  induction clauses with
  | nil => exact pure () (.of_notes .nil true)
  | cons clause clauses ih =>
    show Alike n _ (f clause >>= fun _ => clauses.forM f) (f' clause >>= fun _ => clauses.forM f')
    exact bind (h clause List.mem_cons_self)
      (fun _ => ih fun other hother => h other (List.mem_cons_of_mem _ hother))
      (fun _ _ hnoted => hnoted.append_stop) fun _ _ _ _ _ hfirst hlater => hfirst.append hlater

/-- An operator of clauses records what each of its clauses does. -/
lemma ofClauses {operator : Operator} {undo : Walk Unit} {paths : Clause → List String}
    {f f' : Clause → Walk Unit}
    (h : ∀ clause, (∀ path ∈ paths clause, Path.SameOrLacking c.model scope scope' path) →
      Alike n (Path.Noted c.model scope scope' operator operand (paths clause)) (f clause)
        (f' clause))
    (hpaths : ∀ path ∈ Clause.pathsOf paths operand, Path.SameOrLacking c.model scope scope' path) :
    Alike n (Path.Noted c.model scope scope' operator operand (Clause.pathsOf paths operand))
      (Walk.guarded n operator operand undo () () do
        (← Walk.check (Clause.parse operand)).forM f)
      (Walk.guarded n operator operand undo () () do
        (← Walk.check (Clause.parse operand)).forM f') := by
  refine guarded ?_
  unfold Clause.pathsOf at hpaths ⊢
  cases hparse : Clause.parse operand with
  | error cause => exact refuse (Clause.parse_class hparse) .stop
  | ok parsed =>
    simp only [hparse, check_ok_bind] at hpaths ⊢
    exact clauses fun clause hclause => h clause fun path hpath =>
      hpaths path (List.mem_flatMap.2 ⟨clause, hclause, hpath⟩)

/-- A condition shows and hides for null as for what the model lacks. -/
lemma conditional
    (h : ∀ path ∈ Condition.evaluatedOf c.model scope (Condition.parse operand),
      Path.SameOrLacking c.model scope scope' path) :
    Alike n (Path.Noted c.model scope scope' (.conditional .condition) operand
        (Condition.evaluatedOf c.model scope (Condition.parse operand)))
      (ConditionalOperator.condition.execute c n scope operand)
      (ConditionalOperator.condition.execute c n scope' operand) := by
  refine guarded ?_
  unfold ConditionalOperator.run
  cases hparse : Condition.parse operand with
  | error error => exact refuse rfl .stop
  | ok condition =>
    rw [hparse] at h
    simp only [checkOperand_ok_bind, Condition.evaluatedOf] at h ⊢
    rcases Condition.holds_same (.conditional .condition) operand h with
      ⟨cause, e, e'⟩ | ⟨on, lacking, lacking', e, e', hnotes⟩
    · simp only [e, e', check_error_bind]
      exact refuse (Condition.holds_class e) .stop
    · simp only [e, e', check_ok_bind]
      exact bind_before (recoverAll (Condition.lacking_class e) (Condition.lacking_class e')
        fun element => .of_notes (hnotes element) true) fun _ => pure _ ⟨rfl, rfl, rfl⟩

end Walk.Alike

end TreeTemplate
