import TreeTemplate.Proofs.Follow.Content

/-!
# Attributes and conditions, followed

The operators that set attributes follow their scripts, and the operators that hide elements follow
the conditions.

Main statements:

* `Follows.execute`, `Follows.undoAttribute` — operators that set attributes;
* `Follows.conditional` — operators that hide elements.
-/

namespace TreeTemplate

open AttributeOperator Local

variable {here : Place} {φ : Frame} {s : Walk.State} {P : Element NodeId} {I : Element Unit → Prop}
  {operand : String} {c : Setting} {scope : Value}

/-- The tree of an element has the tag of its shell. -/
lemma Element.hasTag_tree (P : Element NodeId) (n : NodeId) (tags : List String) :
    (P.labelled n).tree.hasTag tags = P.shell.hasTag tags := rfl

/-- A value is shown in the tree of an element as it is in its shell. -/
lemma Element.display_tree (c : Setting) (P : Element NodeId) (n : NodeId) (value : Value) :
    c.display (P.labelled n).tree value = c.display P.shell value := rfl

/-- A touch leaves an element ready. -/
lemma Element.Ready.apply (touch : Touch) (P : Element Unit) (h : P.Ready) :
    (touch.apply P).Ready := by
  have hedit (f : Tree Unit → Tree Unit) : (P.edit f).Ready := h
  cases touch with
  | put name value? => cases value? <;> exact hedit _
  | toggle name on => cases on <;> exact hedit _
  | removeText => exact h.fill fun t ht => h.fits t (List.mem_filter.1 ht).1
  | fillText content =>
    refine h.fill fun t ht => ?_
    rw [List.mem_singleton.1 ht]
    exact ⟨trivial, trivial⟩
  | recover => exact h
  | refuse => exact h

namespace Follows

/-- Sets the attribute that a clause names. -/
lemma setClause (clause : Clause) : Follows here φ Element.Ready
    (AttributeOperator.setClause c here.node scope operand clause)
    (play (.attr .attributes) operand (clauseScript c scope operand clause)) := by
  unfold AttributeOperator.setClause clauseScript
  cases clause.value? with
  | none =>
    rw [play_singleton]
    exact refuse _
  | some path =>
    dsimp only
    cases (Path.read c.model scope path).bind (attributeText? clause.name) with
    | ok text? =>
      dsimp only
      rw [play_singleton]
      exact putAttribute text?
    | error cause =>
      dsimp only
      rw [play_cons, play_singleton]
      exact bind (putAttribute none) (Keeps.change (Element.Ready.apply (.put clause.name none)))
        fun _ => recover cause

/-- Adds the class of a clause where its condition holds, and removes it otherwise. -/
lemma toggleClause (clause : Clause) (name : String) : Follows here φ Element.Ready
    (AttributeOperator.toggleClause c here.node scope operand clause name)
    (play (.attr .classes) operand (toggleScript c scope operand clause name)) := by
  unfold AttributeOperator.toggleClause toggleScript
  cases Condition.parseAt operand clause.start clause.name.toList with
  | error error =>
    rw [Walk.checkOperand_error_bind, play_singleton]
    exact refuse _
  | ok condition =>
    rw [Walk.checkOperand_ok_bind]
    dsimp only
    cases condition.holds c.model scope with
    | error cause =>
      rw [Walk.check_error_bind, play_singleton]
      exact refuse _
    | ok answer =>
      obtain ⟨on, lacking⟩ := answer
      rw [Walk.check_ok_bind]
      dsimp only
      rw [play_append, play_singleton, play_recovers]
      exact bind (forM (fun cause _ => recover cause) fun cause _ => Keeps.recover cause)
        (Keeps.forM fun cause _ => Keeps.recover cause) fun _ => toggle on

/-- Adds or removes the class that the value at a path names. -/
lemma pathClause (on : Bool) (path : String) : Follows here φ Element.Ready
    (match Path.read c.model scope path with
      | .error cause => Walk.recover here.node (.attr .classes) operand cause
      | .ok .null => Pure.pure ()
      | .ok (.string name) => AttributeOperator.toggle here.node (classOf name) on
      | .ok found => Walk.refuse (.classKind path found.kind))
    (play (.attr .classes) operand (pathScript c scope on path)) := by
  unfold pathScript
  cases Path.read c.model scope path with
  | error cause =>
    rw [play_singleton]
    exact recover cause
  | ok found =>
    cases found with
    | null => exact pure ()
    | string name =>
      dsimp only
      rw [play_singleton]
      exact toggle on
    | _ =>
      dsimp only
      rw [play_singleton]
      exact refuse _

/-- Adds or removes the class that the value at the path of a clause names. -/
lemma nameClause (clause : Clause) : Follows here φ Element.Ready
    (AttributeOperator.nameClause c here.node scope operand clause)
    (play (.attr .classes) operand (nameScript c scope clause)) := by
  exact pathClause _ _

/-- A clause for classes follows its script. -/
lemma classClause (clause : Clause) : Follows here φ Element.Ready
    (AttributeOperator.classClause c here.node scope operand clause)
    (play (.attr .classes) operand (classScript c scope operand clause)) := by
  unfold AttributeOperator.classClause classScript
  cases clause.value? with
  | none => exact nameClause clause
  | some name => exact toggleClause clause name

/-- Plays one script for each clause of an operand. -/
lemma clauses {f : Clause → Walk Unit} {script : Clause → List Touch} {operator : Operator}
    (h : ∀ clause, Follows here φ Element.Ready (f clause)
      (play operator operand (script clause))) :
    Follows here φ Element.Ready (Walk.check (Clause.parse operand) >>= fun found => found.forM f)
      (play operator operand (match Clause.parse operand with
        | .error cause => [.refuse cause]
        | .ok found => found.flatMap script)) := by
  cases Clause.parse operand with
  | error cause =>
    rw [Walk.check_error_bind, play_singleton]
    exact refuse cause
  | ok found =>
    rw [Walk.check_ok_bind]
    dsimp only
    rw [play_flatMap]
    exact forM (fun clause _ => h clause) fun clause _ =>
      Keeps.play fun touch _ => Element.Ready.apply touch

/-- Removes the value of a form control, and the text of any other element. -/
lemma removeValue (hP : P.bare.Ready) (h : Holds s here φ P) :
    Reaches s (Shows here φ) (AttributeOperator.removeValue here.node s)
      (play (.attr .value) operand (removeValueScript P.shell) P.bare) := by
  have hrun : AttributeOperator.removeValue here.node s =
      (if P.shell.hasTag valueTags then Walk.putAttribute here.node "value" none
        else Walk.removeText here.node) s :=
    (Walk.run_bind_of_ok h.run_node).trans (by rw [Element.hasTag_tree])
  rw [hrun, removeValueScript]
  split <;> rw [play_singleton]
  · exact putAttribute none hP h
  · exact removeText hP h

/-- Sets the value of a form control, and the content of any other element. -/
lemma setValue (hP : P.bare.Ready) (h : Holds s here φ P) :
    Reaches s (Shows here φ) (AttributeOperator.setValue c here.node scope operand s)
      (play (.attr .value) operand (valueScript c P.shell scope operand) P.bare) := by
  unfold AttributeOperator.setValue valueScript Setting.read
  cases Path.read c.model scope operand with
  | error cause =>
    rw [Walk.check_error_bind, play_singleton]
    exact refuse cause hP h
  | ok found =>
    rw [Walk.check_ok_bind]
    dsimp only
    split
    · exact removeValue hP h
    · rw [Walk.run_bind_of_ok h.run_node, Element.display_tree, Element.hasTag_tree]
      cases c.display P.shell found with
      | error cause =>
        rw [Walk.check_error_bind, play_singleton]
        exact refuse cause hP h
      | ok text =>
        rw [Walk.check_ok_bind]
        dsimp only
        split <;> rw [play_singleton]
        · exact putAttribute (some text) hP h
        · exact fillText text hP h

/-- Sets an attribute that has an operator of its own. -/
lemma setNamed (which : NamedAttribute) (hP : P.bare.Ready) (h : Holds s here φ P) :
    Reaches s (Shows here φ) (AttributeOperator.setNamed c here.node scope operand which s)
      (play (.attr (.named which)) operand (namedScript c P.shell scope operand which)
        P.bare) := by
  unfold AttributeOperator.setNamed namedScript Setting.read
  rw [Walk.run_bind_of_ok h.run_node, Element.hasTag_tree, Element.describe_tree]
  split
  · rw [play_singleton]
    exact refuse _ hP h
  · cases Path.read c.model scope operand with
    | error cause =>
      rw [Walk.check_error_bind]
      simp only [Except.bind]
      rw [play_singleton]
      exact refuse cause hP h
    | ok found =>
      rw [Walk.check_ok_bind]
      simp only [Except.bind]
      cases attributeText? which.name found with
      | error cause =>
        rw [Walk.check_error_bind]
        dsimp only
        rw [play_singleton]
        exact refuse cause hP h
      | ok text? =>
        rw [Walk.check_ok_bind]
        dsimp only
        rw [play_singleton]
        exact putAttribute text? hP h

/-- Removes what an operator sets. -/
lemma undoAttribute (operator : AttributeOperator) : Follows here φ Element.Ready
    (operator.undo here.node operand) (Local.undoAttribute operand operator) := by
  intro s P hP h
  cases operator with
  | attributes =>
    have hmap (found : List Clause) : (found.map fun clause => Touch.put clause.name none) =
        found.flatMap fun clause => [.put clause.name none] := List.map_eq_flatMap
    simp only [Local.undoAttribute, undoScript, hmap]
    refine clauses (fun clause => ?_) hP h
    rw [play_singleton]
    exact putAttribute none
  | classes =>
    refine clauses (fun clause => ?_) hP h
    unfold undoClause
    cases clause.value? with
    | none => exact pure ()
    | some name =>
      dsimp only
      rw [play_singleton]
      exact toggle false
  | named which =>
    simp only [Local.undoAttribute, undoScript, play_singleton]
    exact putAttribute none hP h
  | value => exact removeValue hP h

/-- Sets what an operator sets. -/
lemma run (operator : AttributeOperator) (hP : P.bare.Ready) (h : Holds s here φ P) :
    Reaches s (Shows here φ) (operator.run c here.node scope operand s)
      (play (.attr operator) operand (operator.script c P.shell scope operand) P.bare) := by
  cases operator with
  | attributes => exact clauses (fun clause => setClause clause) hP h
  | classes => exact clauses (fun clause => classClause clause) hP h
  | named which => exact setNamed which hP h
  | value => exact setValue hP h

/-- An operator that sets attributes follows its script. -/
lemma execute (operator : AttributeOperator) : Follows here φ Element.Ready
    (operator.execute c here.node scope operand) (Local.execute c scope operand operator) := by
  intro s P hP h
  refine Reaches.guarded (P := P.bare) (run operator hP h) fun {_} {_} {_} _ _ hQ hholds =>
    undoAttribute operator (hQ ▸ ?_) hholds
  exact Keeps.play (fun touch _ => Element.Ready.apply touch) _ hP

/-- A condition decides whether an element is shown. -/
lemma conditional (operator : ConditionalOperator) : Follows here φ I
    (operator.execute c here.node scope operand) (Local.conditional c scope operand operator) := by
  refine guarded ?_ (Keeps.visibility c scope operator) (pure ())
  cases operator with
  | condition =>
    refine bind (checkOperand _) (Keeps.checkOperand _) fun condition =>
      bind (check _) (Keeps.check _) fun answer => ?_
    exact bind (forM (fun cause _ => recover cause) fun cause _ => Keeps.recover cause)
      (Keeps.forM fun cause _ => Keeps.recover cause) fun _ => pure _
  | exclude => exact pure _

end Follows

end TreeTemplate
