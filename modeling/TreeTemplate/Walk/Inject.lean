import TreeTemplate.Walk.Attributes
import TreeTemplate.Walk.Content
import TreeTemplate.Walk.Directives
import TreeTemplate.Walk.Visibility

/-!
# Injection

Injecting a scope into an element and everything below it. A jump goes on with another element in
place of this one. Otherwise the attributes are set, then it is decided whether the element is
shown, then its content is filled, and the elements that are still below it follow in order. Under a
null scope only content is cleared.

Elements can be entered inside one another as often as there is room, which also ends jumps in a
circle.
-/

namespace TreeTemplate.Setting

/-- Sets the attributes of an element and decides whether it is shown. The answer says whether the
walk goes on with its content. -/
def decorate (c : Setting) (n : NodeId) (ds : Directives) (scope : Value) : Walk Bool := do
  ds.attributes.forM fun (operator, operand) => operator.execute c n scope operand
  match ds.conditional? with
  | none => return true
  | some (operator, operand) =>
    match ← operator.execute c n scope operand with
    | .shown => do
      Walk.editNode n (·.setHidden false)
      return true
    | .hidden => do
      Walk.editNode n (·.setHidden true)
      return false
    | .abandoned => return false

/-- The operator that fills a copy for an item or an entry which declares none: its elements are
walked in the scope of the item, and without elements it is filled with text. -/
def itemOperator (t : Tree NodeId) : ContentOperator :=
  if t.elements.isEmpty then .text else .object

/-- Fills the content of an element, and walks the elements below it if there is a scope for
them. -/
def fill (c : Setting) (walk : ElementWalk) (n : NodeId) (ds : Directives) (scope : Value)
    (isItem : Bool) : Walk Unit := do
  let content? ←
    match ds.content? with
    | some content => pure (some content)
    | none => if isItem then do pure (some (itemOperator (← Walk.node n), ".")) else pure none
  let inner? ←
    match content? with
    | some (operator, operand) => operator.execute c walk n scope operand
    | none => pure (some scope)
  match inner? with
  | some inner => do
    (← Walk.node n).elements.forM fun child => walk child.label inner false
  | none => pure ()

/-- Injects a scope into an element whose directives are known. -/
def injectDirectives (c : Setting) (walk : ElementWalk) (n : NodeId) (ds : Directives)
    (scope : Value) (isItem : Bool) : Walk Unit := do
  match ← Walk.jumpTarget ds with
  | some target => walk target scope false
  | none =>
    if scope.isNull then c.fill walk n ds scope isItem
    else if ← c.decorate n ds scope then c.fill walk n ds scope isItem
    else pure ()

/-- Injects a scope into an element and everything below it. -/
def inject (c : Setting) : Nat → NodeId → Value → Bool → Walk Unit
  | 0, n, _, _ => Walk.refuseDepth n
  | room + 1, n, scope, isItem => Walk.deeper do
    let ds ← Walk.directives c.engine.dialect n
    c.injectDirectives (c.inject room) n ds scope isItem

/-- Injects a value into an element by itself. -/
def injectSubtree (c : Setting) (room : Nat) (n : NodeId) (scope : Value) : Walk Unit :=
  match room with
  | 0 => Walk.refuseDepth n
  | room + 1 => Walk.deeper do
    let ds ← Walk.directives c.engine.dialect n
    let ds ← Walk.check (ds.forSubtree (← Walk.node n).describe)
    c.injectDirectives (c.inject room) n ds scope false

end TreeTemplate.Setting
