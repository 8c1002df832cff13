import TreeTemplate.Proofs.Courses.Basic
import TreeTemplate.Proofs.Follow.Servings
import TreeTemplate.Proofs.Follow.Steps

/-!
# Kinds of walks and the operators

Which kinds of walks the operators of an element belong to. It is enough to know of a few steps that
they are of the kind: the attributes of the element are changed, its content is replaced or
forgotten, templates are taken out of it.

Main statements:

* `Decorating.decorate` — the attributes of an element are set, and it is shown or hidden;
* `PlainFilling.run`, `Stocking.servings` — the content of an element is filled, or cleared for
  copies;
* `Restyling.undoAttribute`, `Filling.undoContent` — what operators did is undone.
-/

namespace TreeTemplate.Walk

variable {Q : (α : Type) → Walk α → Prop} {n : NodeId} {c : Setting} {scope : Value}
  {operand : String}

/-- A kind closed at an element that holds what changes the element itself and what removes texts
from it. -/
structure Restyling (Q : (α : Type) → Walk α → Prop) (n : NodeId) : Prop extends ClosedAt Q n where
  restyle : ∀ f, Tree.RestylesOnly f → Q Unit (editNode n f)
  removeText : Q Unit (Walk.removeText n)

/-- A kind closed at an element that holds what sets its attributes. -/
structure Decorating (Q : (α : Type) → Walk α → Prop) (n : NodeId) : Prop
  extends Restyling Q n where
  fillText : ∀ content, Q Unit (Walk.fillText n content)

/-- A kind closed at an element that holds what fills it with something else than copies. -/
structure PlainFilling (Q : (α : Type) → Walk α → Prop) (n : NodeId) : Prop
  extends Decorating Q n where
  setText : ∀ content, Q Unit (edit n fun n d => d.setText? n content)
  forgetBelow : Q Unit (Walk.forgetBelow n)
  clear : Q Unit (Walk.clear n)
  fillMarkup : ∀ markup, Q Unit (ContentOperator.fillMarkup n markup)
  appendOption : ∀ item, Q Unit (ContentOperator.appendOption n item)

/-- A kind closed at an element that holds what takes templates out of it and clears it. -/
structure Stocking (Q : (α : Type) → Walk α → Prop) (n : NodeId) : Prop extends ClosedAt Q n where
  clear : Q Unit (Walk.clear n)
  itemTemplate : Q NodeId (Walk.itemTemplate n)
  entryTemplates : Q (NodeId × NodeId) (Walk.entryTemplates n)

/-- A kind closed at an element that holds what fills it. -/
structure Filling (Q : (α : Type) → Walk α → Prop) (n : NodeId) : Prop
  extends PlainFilling Q n, Stocking Q n

/-- Reading an operand is of a kind that is closed under sequences. -/
lemma BindClosed.read (hQ : BindClosed Q) (c : Setting) (scope : Value) (operand : String) :
    Q _ (c.read scope operand) :=
  hQ.check _

/-- Where texts can be removed and an element can be cleared, an operator that makes no copies can
be undone. -/
lemma BindClosed.undoContent (hQ : BindClosed Q) (hremove : Q Unit (Walk.removeText n))
    (hclear : Q Unit (Walk.clear n)) {operator : ContentOperator}
    (h : operator.ordered? = none) : Q _ (operator.undo n) := by
  cases operator with
  | text => exact hremove
  | numbering => exact hremove
  | html => exact hclear
  | options => exact hclear
  | object => exact hQ.pure ()
  | list _ => cases h
  | map _ => cases h

/-- A scope is opened without doing anything. -/
lemma BindClosed.runObject (hQ : BindClosed Q) :
    Q _ (ContentOperator.runObject c scope operand) := by
  unfold ContentOperator.runObject
  split
  · exact hQ.pure _
  · refine hQ.bind (hQ.read c scope operand) fun value => ?_
    split
    · exact hQ.pure _
    · exact hQ.refuse _

namespace Restyling

variable (hQ : Restyling Q n)
include hQ

/-! ## Attributes -/

/-- Setting or removing an attribute is of the kind. -/
lemma putAttribute (name : String) (value? : Option String) :
    Q _ (Walk.putAttribute n name value?) := by
  cases value? with
  | some value => exact hQ.restyle _ (Tree.restylesOnly_setAttr name value)
  | none => exact hQ.restyle _ (Tree.restylesOnly_removeAttr name)

/-- Adding or removing a class is of the kind. -/
lemma toggle (name : String) (on : Bool) : Q _ (AttributeOperator.toggle n name on) := by
  unfold AttributeOperator.toggle
  cases on with
  | true => exact hQ.restyle _ (Tree.restylesOnly_addClass name)
  | false => exact hQ.restyle _ (Tree.restylesOnly_removeClass name)

/-- A clause that sets an attribute is of the kind. -/
lemma setClause (clause : Clause) :
    Q _ (AttributeOperator.setClause c n scope operand clause) := by
  unfold AttributeOperator.setClause
  split
  · exact hQ.refuse _
  · split
    · exact hQ.putAttribute _ _
    · exact hQ.bind (hQ.putAttribute _ _) fun _ => hQ.recover _

/-- A clause that adds or removes a class under a condition is of the kind. -/
lemma toggleClause (clause : Clause) (name : String) :
    Q _ (AttributeOperator.toggleClause c n scope operand clause name) := by
  refine hQ.bind (hQ.checkOperand _) fun condition => ?_
  refine hQ.bind (hQ.check _) fun answer => ?_
  exact hQ.bind (hQ.forM fun _ _ => hQ.recover _) fun _ =>
    hQ.toggle _ _

/-- A clause that adds or removes the class that it reads is of the kind. -/
lemma nameClause (clause : Clause) :
    Q _ (AttributeOperator.nameClause c n scope operand clause) := by
  unfold AttributeOperator.nameClause
  dsimp only
  split
  · exact hQ.recover _
  · exact hQ.pure ()
  · exact hQ.toggle _ _
  · exact hQ.refuse _

/-- A clause for classes is of the kind. -/
lemma classClause (clause : Clause) :
    Q _ (AttributeOperator.classClause c n scope operand clause) := by
  unfold AttributeOperator.classClause
  split
  · exact hQ.toggleClause _ _
  · exact hQ.nameClause _

/-- Setting an attribute that the operator names is of the kind. -/
lemma setNamed (which : NamedAttribute) :
    Q _ (AttributeOperator.setNamed c n scope operand which) := by
  refine hQ.bind (hQ.node) fun t => ?_
  split
  · exact hQ.refuse _
  · exact hQ.bind (hQ.read c scope operand) fun _ =>
      hQ.bind (hQ.check _) fun _ => hQ.putAttribute _ _

/-- Removing what shows a value is of the kind. -/
lemma removeValue : Q _ (AttributeOperator.removeValue n) := by
  refine hQ.bind (hQ.node) fun t => ?_
  split
  · exact hQ.putAttribute _ _
  · exact hQ.removeText

/-- An operator that sets no value only changes the element itself. -/
lemma runAttribute {operator : AttributeOperator} (h : operator ≠ .value) :
    Q _ (operator.run c n scope operand) := by
  cases operator with
  | attributes =>
    exact hQ.bind (hQ.check _) fun _ =>
      hQ.forM fun clause _ => hQ.setClause clause
  | classes =>
    exact hQ.bind (hQ.check _) fun _ =>
      hQ.forM fun clause _ => hQ.classClause clause
  | named which => exact hQ.setNamed which
  | value => exact absurd rfl h

/-- Undoing an operator that sets attributes is of the kind. -/
lemma undoAttribute (operator : AttributeOperator) : Q _ (operator.undo n operand) := by
  cases operator with
  | attributes =>
    exact hQ.bind (hQ.check _) fun _ =>
      hQ.forM fun clause _ => hQ.putAttribute _ _
  | classes =>
    refine hQ.bind (hQ.check _) fun _ =>
      hQ.forM fun clause _ => ?_
    split
    · exact hQ.toggle _ _
    · exact hQ.pure ()
  | named which => exact hQ.putAttribute which.name none
  | value => exact hQ.removeValue

/-- An operator that sets attributes is of the kind under the policy for faults, if it is by
itself. -/
lemma executeAttribute {operator : AttributeOperator} (h : Q _ (operator.run c n scope operand)) :
    Q _ (operator.execute c n scope operand) :=
  hQ.guarded (hQ.undoAttribute operator) h

/-! ## Visibility -/

/-- An operator that shows and hides an element is of the kind. -/
lemma runConditional (operator : ConditionalOperator) :
    Q _ (operator.run c n scope operand) := by
  cases operator with
  | condition =>
    refine hQ.bind (hQ.checkOperand _) fun condition => ?_
    refine hQ.bind (hQ.check _) fun answer => ?_
    exact hQ.bind (hQ.forM fun _ _ => hQ.recover _) fun _ =>
      hQ.pure _
  | exclude => exact hQ.pure _

/-- An operator that shows and hides an element is of the kind under the policy for faults. -/
lemma executeConditional (operator : ConditionalOperator) :
    Q _ (operator.execute c n scope operand) :=
  hQ.guarded (hQ.pure ()) (hQ.runConditional operator)

/-- The attributes of an element are set, and it is decided whether it is shown. -/
lemma decorate {ds : Directives}
    (h : ∀ declared ∈ ds.attributes, Q _ (declared.1.run c n scope declared.2)) :
    Q _ (c.decorate n ds scope) := by
  refine hQ.bind (hQ.forM fun declared hdeclared => hQ.executeAttribute (h declared hdeclared))
    fun _ => ?_
  split
  · exact hQ.pure _
  · refine hQ.bind (hQ.executeConditional _) fun visibility => ?_
    cases visibility with
    | shown =>
      exact hQ.bind (hQ.restyle _ (Tree.restylesOnly_setHidden false)) fun _ =>
        hQ.pure _
    | hidden =>
      exact hQ.bind (hQ.restyle _ (Tree.restylesOnly_setHidden true)) fun _ =>
        hQ.pure _
    | abandoned => exact hQ.pure _

/-- Showing an element again is of the kind. -/
lemma unhide (ds : Directives) : Q _ (Walk.unhide n ds) := by
  unfold Walk.unhide
  split
  · exact hQ.restyle _ (Tree.restylesOnly_setHidden false)
  · exact hQ.pure ()

/-- What the attributes of an element declare is undone. -/
lemma undoAttributes (ds : Directives) :
    Q _ (ds.attributes.forM fun (operator, operand) =>
      Walk.inOperator n (.attr operator) operand (operator.undo n operand)) :=
  hQ.forM fun _ _ => hQ.inOperator (hQ.undoAttribute _)

end Restyling

namespace Decorating

variable (hQ : Decorating Q n)
include hQ

/-- Showing a value is of the kind. -/
lemma setValue : Q _ (AttributeOperator.setValue c n scope operand) := by
  refine hQ.bind (hQ.read c scope operand) fun value => ?_
  split
  · exact hQ.removeValue
  · refine hQ.bind (hQ.node) fun t => ?_
    refine hQ.bind (hQ.check _) fun text => ?_
    split
    · exact hQ.putAttribute _ _
    · exact hQ.fillText _

/-- Every operator that sets attributes is of the kind. -/
lemma runAttribute (operator : AttributeOperator) : Q _ (operator.run c n scope operand) := by
  by_cases h : operator = .value
  · exact h ▸ hQ.setValue
  · exact hQ.toRestyling.runAttribute h

/-- The attributes of an element are set, and it is decided whether it is shown. -/
lemma decorate (ds : Directives) : Q _ (c.decorate n ds scope) :=
  hQ.toRestyling.decorate fun declared _ => hQ.runAttribute declared.1

end Decorating

/-! ## Content -/

namespace PlainFilling

variable (hQ : PlainFilling Q n)
include hQ

/-- Filling in a text is of the kind. -/
lemma runText : Q _ (ContentOperator.runText c n scope operand) := by
  unfold ContentOperator.runText
  split
  · exact hQ.removeText
  · refine hQ.bind (hQ.node) fun t => ?_
    split
    · exact hQ.refuse _
    · refine hQ.bind (hQ.read c scope operand) fun value => ?_
      split
      · exact hQ.removeText
      · exact hQ.removeText
      · exact hQ.bind (hQ.check _) fun _ => hQ.setText _

/-- Filling in markup is of the kind. -/
lemma runHtml : Q _ (ContentOperator.runHtml c n scope operand) := by
  unfold ContentOperator.runHtml
  split
  · exact hQ.clear
  · refine hQ.bind (hQ.read c scope operand) fun value => ?_
    split
    · exact hQ.clear
    · exact hQ.bind hQ.forgetBelow fun _ => hQ.fillMarkup _
    · exact hQ.refuse _

/-- Filling in a label is of the kind. -/
lemma runNumbering : Q _ (ContentOperator.runNumbering n operand) :=
  hQ.bind (hQ.checkOperand _) fun _ => hQ.bind hQ.get fun _ => hQ.bind (hQ.check _) fun _ =>
    hQ.fillText _

/-- Filling in options is of the kind. -/
lemma runOptions : Q _ (ContentOperator.runOptions c n scope operand) := by
  refine hQ.bind (hQ.node) fun t => ?_
  split
  · exact hQ.refuse _
  · split
    · exact hQ.clear
    · refine hQ.bind (hQ.read c scope operand) fun value => ?_
      split
      · exact hQ.clear
      · exact hQ.bind hQ.clear fun _ =>
          hQ.forM fun item _ => hQ.appendOption item
      · exact hQ.refuse _

/-- An operator that makes no copies. -/
lemma run {walk : ElementWalk} {operator : ContentOperator} (h : operator.ordered? = none) :
    Q _ (operator.run c walk n scope operand) := by
  cases operator with
  | text => exact hQ.bind hQ.runText fun _ => hQ.pure _
  | html => exact hQ.bind hQ.runHtml fun _ => hQ.pure _
  | object => exact hQ.bind hQ.runObject fun _ => hQ.pure _
  | list _ => cases h
  | map _ => cases h
  | numbering => exact hQ.bind hQ.runNumbering fun _ => hQ.pure _
  | options => exact hQ.bind hQ.runOptions fun _ => hQ.pure _

/-- Undoing an operator that makes no copies is of the kind. -/
lemma undoContent {operator : ContentOperator} (h : operator.ordered? = none) :
    Q _ (operator.undo n) :=
  hQ.toBindClosed.undoContent hQ.removeText hQ.clear h

end PlainFilling

namespace Stocking

variable (hQ : Stocking Q n)
include hQ

/-- An element is cleared for copies of its templates. -/
lemma servings (operator : ContentOperator) : Q _ (operator.servings c n scope operand) := by
  cases operator with
  | list _ =>
    exact hQ.bind hQ.itemTemplate fun _ => hQ.bind hQ.clear fun _ =>
      hQ.bind (hQ.check _) fun _ => hQ.pure _
  | map _ =>
    exact hQ.bind hQ.entryTemplates fun _ => hQ.bind hQ.clear fun _ =>
      hQ.bind (hQ.check _) fun _ => hQ.pure _
  | _ => exact hQ.pure _

/-- Where texts can be removed as well, every operator can be undone. -/
lemma undoContent (hremove : Q Unit (Walk.removeText n)) (operator : ContentOperator) :
    Q _ (operator.undo n) := by
  cases h : operator.ordered? with
  | none => exact hQ.toBindClosed.undoContent hremove hQ.clear h
  | some ordered =>
    cases operator with
    | list _ => exact hQ.bind hQ.itemTemplate fun _ => hQ.clear
    | map _ => exact hQ.bind hQ.entryTemplates fun _ => hQ.clear
    | _ => cases h

end Stocking

/-- What the operator that fills an element filled in is removed. -/
lemma ClosedAt.unfill (hQ : ClosedAt Q n)
    (hundo : ∀ operator : ContentOperator, Q Unit (operator.undo n))
    (ds : Directives) : Q _ (Walk.unfill n ds) := by
  unfold Walk.unfill
  split
  · exact hQ.inOperator (hundo _)
  · exact hQ.pure ()

namespace Filling

variable (hQ : Filling Q n)
include hQ

/-- Undoing an operator that fills an element is of the kind. -/
lemma undoContent (operator : ContentOperator) : Q _ (operator.undo n) :=
  hQ.toStocking.undoContent hQ.removeText operator

/-- An operator under the policy for faults runs what it runs without it. -/
lemma execute {walk : ElementWalk} {operator : ContentOperator}
    (h : Q _ (operator.run c walk n scope operand)) :
    Q _ (operator.execute c walk n scope operand) :=
  hQ.guarded (hQ.undoContent operator) h

end Filling

end TreeTemplate.Walk
