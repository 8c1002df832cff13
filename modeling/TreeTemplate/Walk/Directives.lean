import TreeTemplate.Walk.Basic

/-!
# Directives of elements

The operators that the attributes of an element declare, with their operands. Any number of them
sets attributes; of the others there is at most one of each group.

Main statements:

* `ofAttrs_append` — of attributes in two parts the second part adds to what the first declares.
-/

namespace TreeTemplate

/-- The directives of an element, with their operands. -/
structure Directives where
  /-- The `id` of the element to go on with. -/
  jump? : Option String := none
  conditional? : Option (ConditionalOperator × String) := none
  content? : Option (ContentOperator × String) := none
  attributes : List (AttributeOperator × String) := []
deriving Repr, DecidableEq

namespace Directives

/-- Adds what an attribute of an element declares, if it is a directive. -/
def add (dialect : Dialect) (element : String) (ds : Directives) (attr : String × String) :
    Except Cause Directives :=
  let (name, operand) := attr
  let conflict (operator : Operator) : Except Cause Directives :=
    .error (.conflict element (dialect.attributeName operator) name)
  match dialect.operator? name with
  | none => .ok ds
  | some .jump =>
    match ds.jump? with
    | some _ => conflict .jump
    | none => .ok { ds with jump? := some operand }
  | some (.conditional operator) =>
    match ds.conditional? with
    | some (declared, _) => conflict (.conditional declared)
    | none => .ok { ds with conditional? := some (operator, operand) }
  | some (.content operator) =>
    match ds.content? with
    | some (declared, _) => conflict (.content declared)
    | none => .ok { ds with content? := some (operator, operand) }
  | some (.attr operator) =>
    .ok { ds with attributes := ds.attributes ++ [(operator, operand)] }

/-- The directives that the attributes of an element declare. -/
def ofAttrs (dialect : Dialect) (element : String) (attrs : List (String × String)) :
    Except Cause Directives :=
  attrs.foldlM (add dialect element) {}

/-- Of attributes in two parts the second part adds to what the first declares. -/
theorem ofAttrs_append (dialect : Dialect) (element : String)
    (first later : List (String × String)) :
    ofAttrs dialect element (first ++ later) = (do
      later.foldlM (add dialect element) (← ofAttrs dialect element first)) := by
  simp [ofAttrs, List.foldlM_append]

/-- The directives of an element that a value is injected into by itself: the content is filled from
the value, by an operator that can be given one. -/
def forSubtree (ds : Directives) (element : String) : Except Cause Directives :=
  match ds.content? with
  | none => .ok { ds with content? := some (.object, ".") }
  | some (operator, _) =>
    match operator with
    | .text | .html | .numbering => .error (.noSubtree operator element)
    | .object | .list _ | .map _ | .options => .ok { ds with content? := some (operator, ".") }

end Directives

/-- The directives of an element. -/
def Walk.directives (dialect : Dialect) (n : NodeId) : Walk Directives := do
  let t ← node n
  check (Directives.ofAttrs dialect t.describe t.attrs)

/-- The element that a jump leads to, if the document has it. -/
def Walk.jumpTarget (ds : Directives) : Walk (Option NodeId) := do
  return ds.jump?.bind (← get).document.withId?

end TreeTemplate
