import TreeTemplate.Proofs.Local.Basic
import TreeTemplate.Walk.Attributes
import TreeTemplate.Walk.Visibility

/-!
# Attributes and classes as scripts

What an operator that sets attributes does is written down as a script, a list of touches. The
script depends on the scope, the tag and the formatter of the element, and not on what the touches
change, so two runs of an operator can be compared by comparing scripts.

Main statements:

* `play_append` — a script in two parts is played part after part.
-/

namespace TreeTemplate

namespace Element

variable {ι : Type}

/-- Changes how an element looks. -/
def edit (f : Tree Unit → Tree Unit) (P : Element ι) : Element ι :=
  { P with head := ⟨(f P.shell).tag, (f P.shell).attrs, (f P.shell).isHidden⟩ }

/-- Puts nodes in the place of those below an element. -/
def fill (children : List (Stocked ι)) (P : Element ι) : Element ι :=
  { P with children := children }

/-- Removes the texts directly below an element. -/
def removeText (P : Element ι) : Element ι :=
  P.fill (P.children.filter Stocked.isElement)

end Element

/-- A step of an operator that sets attributes. -/
inductive Touch where
  /-- Sets an attribute, or removes it if there is no value for it. -/
  | put (name : String) (value? : Option String)
  /-- Adds or removes a class. -/
  | toggle (name : String) (on : Bool)
  | removeText
  | fillText (content : String)
  /-- Goes on if the cause is that the model lacks something, and stops otherwise. -/
  | recover (cause : Cause)
  | refuse (cause : Cause)

namespace Touch

/-- What a touch makes of an element. -/
def apply : Touch → Element Unit → Element Unit
  | put name (some value), P => P.edit (Tree.setAttr name value)
  | put name none, P => P.edit (Tree.removeAttr name)
  | toggle name true, P => P.edit (Tree.addClass name)
  | toggle name false, P => P.edit (Tree.removeClass name)
  | removeText, P => P.removeText
  | fillText content, P => P.fill [.text () content]
  | recover _, P => P
  | refuse _, P => P

/-- Carries out a touch of an operator. -/
def play (operator : Operator) (operand : String) : Touch → Local (Element Unit) Unit
  | recover cause => Local.recover operator operand cause
  | refuse cause => Local.refuse cause
  | touch => Local.change touch.apply

end Touch

namespace Local

/-- Carries out the touches of a script until one stops. -/
def play (operator : Operator) (operand : String) (script : List Touch) :
    Local (Element Unit) Unit :=
  script.forM (Touch.play operator operand)

end Local

namespace AttributeOperator

/-- Sets the attribute that a clause names. -/
def clauseScript (c : Setting) (scope : Value) (operand : String) (clause : Clause) :
    List Touch :=
  match clause.value? with
  | none =>
    let stop := clause.start + Text.bytes clause.name.toList
    [.refuse (.malformed ⟨.expectedNamedPath, operand, ⟨clause.start, stop⟩⟩)]
  | some path =>
    match (Path.read c.model scope path).bind (attributeText? clause.name) with
    | .ok text? => [.put clause.name text?]
    | .error cause => [.put clause.name none, .recover cause]

/-- Adds the class of a clause where its condition holds, and removes it otherwise. -/
def toggleScript (c : Setting) (scope : Value) (operand : String) (clause : Clause)
    (name : String) : List Touch :=
  match Condition.parseAt operand clause.start clause.name.toList with
  | .error error => [.refuse (.malformed error)]
  | .ok condition =>
    match condition.holds c.model scope with
    | .error cause => [.refuse cause]
    | .ok (on, lacking) => lacking.map .recover ++ [.toggle name on]

/-- Adds or removes the class that the value at a path names. -/
def pathScript (c : Setting) (scope : Value) (on : Bool) (path : String) : List Touch :=
  match Path.read c.model scope path with
  | .error cause => [.recover cause]
  | .ok .null => []
  | .ok (.string name) => [.toggle (classOf name) on]
  | .ok found => [.refuse (.classKind path found.kind)]

/-- Adds or removes the class that the value at the path of a clause names. -/
def nameScript (c : Setting) (scope : Value) (clause : Clause) : List Touch :=
  let (on, path) :=
    match clause.name.toList with
    | '!' :: path => (false, String.ofList path)
    | _ => (true, clause.name)
  pathScript c scope on path

/-- Adds and removes the classes of a clause. -/
def classScript (c : Setting) (scope : Value) (operand : String) (clause : Clause) :
    List Touch :=
  match clause.value? with
  | some name => toggleScript c scope operand clause name
  | none => nameScript c scope clause

/-- Sets an attribute that has an operator of its own. -/
def namedScript (c : Setting) (t : Tree Unit) (scope : Value) (operand : String)
    (which : NamedAttribute) : List Touch :=
  if which = .src && !t.hasTag sourceTags then
    [.refuse (.unsupported (.attr (.named which)) t.describe)]
  else
    match (Path.read c.model scope operand).bind (attributeText? which.name) with
    | .ok text? => [.put which.name text?]
    | .error cause => [.refuse cause]

/-- Removes the value of a form control, and the text of any other element. -/
def removeValueScript (t : Tree Unit) : List Touch :=
  if t.hasTag valueTags then [.put "value" none] else [.removeText]

/-- Sets the value of a form control, and the content of any other element. -/
def valueScript (c : Setting) (t : Tree Unit) (scope : Value) (operand : String) : List Touch :=
  match Path.read c.model scope operand with
  | .error cause => [.refuse cause]
  | .ok found =>
    if found.isNull then removeValueScript t
    else
      match c.display t found with
      | .error cause => [.refuse cause]
      | .ok text => if t.hasTag valueTags then [.put "value" (some text)] else [.fillText text]

/-- What an operator does to an element that looks like `t`. -/
def script (c : Setting) (t : Tree Unit) (scope : Value) (operand : String) :
    AttributeOperator → List Touch
  | attributes =>
    match Clause.parse operand with
    | .error cause => [.refuse cause]
    | .ok clauses => clauses.flatMap (clauseScript c scope operand)
  | classes =>
    match Clause.parse operand with
    | .error cause => [.refuse cause]
    | .ok clauses => clauses.flatMap (classScript c scope operand)
  | named which => namedScript c t scope operand which
  | value => valueScript c t scope operand

/-- The class that a clause adds or removes in any case. -/
def undoClause (clause : Clause) : List Touch :=
  match clause.value? with
  | some name => [.toggle name false]
  | none => []

/-- What undoing an operator does to an element that looks like `t`. -/
def undoScript (t : Tree Unit) (operand : String) : AttributeOperator → List Touch
  | attributes =>
    match Clause.parse operand with
    | .error cause => [.refuse cause]
    | .ok clauses => clauses.map fun clause => .put clause.name none
  | classes =>
    match Clause.parse operand with
    | .error cause => [.refuse cause]
    | .ok clauses => clauses.flatMap undoClause
  | named which => [.put which.name none]
  | value => removeValueScript t

end AttributeOperator

namespace Local

/-- Undoes an operator that sets attributes. -/
def undoAttribute (operand : String) (operator : AttributeOperator) : Local (Element Unit) Unit :=
  fun P => play (.attr operator) operand (operator.undoScript P.shell operand) P

/-- Runs an operator that sets attributes under the policy for faults. -/
def execute (c : Setting) (scope : Value) (operand : String) (operator : AttributeOperator) :
    Local (Element Unit) Unit :=
  guarded (.attr operator) operand (undoAttribute operand operator) () ()
    fun P => play (.attr operator) operand (operator.script c P.shell scope operand) P

/-- What a conditional operator makes of an element in a scope. -/
def visibility (c : Setting) (scope : Value) (operand : String) :
    ConditionalOperator → Local (Element Unit) Visibility
  | .condition => do
    let condition ← checkOperand (Condition.parse operand)
    let (held, lacking) ← check (condition.holds c.model scope)
    lacking.forM (recover (.conditional .condition) operand)
    return if held then .shown else .hidden
  | .exclude =>
    let word := String.ofList ((Text.trim operand.toList).map Char.toLower)
    pure (if word = "true" then .hidden else .shown)

/-- Runs a conditional operator under the policy for faults. -/
def conditional (c : Setting) (scope : Value) (operand : String)
    (operator : ConditionalOperator) : Local (Element Unit) Visibility :=
  guarded (.conditional operator) operand (pure ()) .hidden .abandoned
    (visibility c scope operand operator)

/-! ## Playing scripts -/

variable {operator : Operator} {operand : String}

/-- A script in two parts is played part after part. -/
lemma play_append (first later : List Touch) :
    play operator operand (first ++ later) =
      (play operator operand first >>= fun _ => play operator operand later) :=
  List.forM_append

/-- The first touch of a script comes first. -/
lemma play_cons (touch : Touch) (later : List Touch) :
    play operator operand (touch :: later) =
      (touch.play operator operand >>= fun _ => play operator operand later) := rfl

/-- A script of one touch is that touch. -/
lemma play_singleton (touch : Touch) :
    play operator operand [touch] = touch.play operator operand :=
  bind_pure_unit

/-- Scripts one after another are played one after another. -/
lemma play_flatMap {γ : Type} (xs : List γ) (script : γ → List Touch) :
    play operator operand (xs.flatMap script) =
      xs.forM fun x => play operator operand (script x) := by
  induction xs with
  | nil => rfl
  | cons x xs ih =>
    rw [List.flatMap_cons, play_append, ih]
    rfl

/-- A script that only records faults records them one after another. -/
lemma play_recovers (causes : List Cause) :
    play operator operand (causes.map .recover) = causes.forM (recover operator operand) :=
  List.forM_map

namespace Keeps

variable {R : Element Unit → Prop} {script : List Touch}

/-- A script keeps a property that each of its touches keeps. -/
lemma play (h : ∀ touch ∈ script, ∀ P, R P → R (touch.apply P)) :
    Keeps R (Local.play operator operand script) := by
  refine forM fun touch ht => ?_
  cases touch with
  | recover cause => exact recover cause
  | refuse cause => exact refuse cause
  | _ => exact change (h _ ht)

/-- Operators that set attributes keep what all touches keep. -/
lemma undoAttribute (h : ∀ touch P, R P → R (Touch.apply touch P)) (operator : AttributeOperator) :
    Keeps R (Local.undoAttribute operand operator) := by
  intro P hP
  exact play (fun touch _ => h touch) P hP

/-- An operator that sets attributes keeps a property that touches keep. -/
lemma execute (h : ∀ touch P, R P → R (Touch.apply touch P)) (c : Setting) (scope : Value)
    (operator : AttributeOperator) : Keeps R (Local.execute c scope operand operator) := by
  refine guarded (undoAttribute h operator) fun P hP => ?_
  exact play (fun touch _ => h touch) P hP

/-- Whether an element is shown is found out without changing it. -/
lemma visibility (c : Setting) (scope : Value) (operator : ConditionalOperator) :
    Keeps R (Local.visibility c scope operand operator) := by
  cases operator with
  | condition =>
    exact bind (checkOperand _) fun _ => bind (check _) fun answer =>
      bind (forM fun cause _ => recover cause) fun _ => pure _
  | exclude => exact pure _

/-- An operator that shows and hides an element leaves it as it is otherwise. -/
lemma conditional (c : Setting) (scope : Value) (operator : ConditionalOperator) :
    Keeps R (Local.conditional c scope operand operator) :=
  guarded (pure ()) (visibility c scope operator)

end Keeps

end Local

end TreeTemplate
