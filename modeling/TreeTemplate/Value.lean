import TreeTemplate.Entries
import TreeTemplate.Decimal.Positional
import TreeTemplate.Decimal.Reader

/-!
# Values

The model that is injected into a tree: null, scalars, lists, and maps in the order of their keys.
Null is a value that exists and holds nothing; a name that a map does not have is undefined, which
is something else.
-/

namespace TreeTemplate

/-- A value of a model. -/
inductive Value where
  | null
  | bool (b : Bool)
  | integer (n : Int64)
  | float (x : Decimal.Double)
  | string (s : String)
  | list (items : List Value)
  /-- The entries stand in the ascending order of their names. -/
  | map (entries : List (String × Value))

namespace Value

/-- Null, where no value is given. -/
instance : Inhabited Value := ⟨null⟩

/-- A map with the given pairs; of two pairs with the same name the later one counts. -/
def ofPairs (pairs : List (String × Value)) : Value :=
  .map (entriesOf pairs)

/-- The names of the maps inside a value are strictly ascending. -/
inductive Ordered : Value → Prop
  | null : Ordered null
  | bool (b) : Ordered (bool b)
  | integer (n) : Ordered (integer n)
  | float (x) : Ordered (float x)
  | string (s) : Ordered (string s)
  | list {items} (h : ∀ item ∈ items, Ordered item) : Ordered (list items)
  | map {entries} (h : Ascending entries) (he : ∀ entry ∈ entries, Ordered entry.2) :
    Ordered (map entries)

/-- The kinds of values. -/
inductive Kind where
  | null
  | bool
  | integer
  | float
  | string
  | list
  | map
deriving Repr, DecidableEq

/-- The word for a kind. -/
def Kind.name : Kind → String
  | .null => "none"
  | .bool => "bool"
  | .integer => "integer"
  | .float => "float"
  | .string => "string"
  | .list => "list"
  | .map => "map"

/-- The kind of a value. -/
def kind : Value → Kind
  | null => .null
  | bool _ => .bool
  | integer _ => .integer
  | float _ => .float
  | string _ => .string
  | list _ => .list
  | map _ => .map

/-- Whether a value is null. -/
def isNull : Value → Bool
  | null => true
  | _ => false

/-- Whether a value has properties that a path can name. -/
def isComposite : Value → Bool
  | list _ | map _ => true
  | _ => false

/-- Whether a value is null, the empty string, or a collection without items. -/
def isEmpty : Value → Bool
  | null => true
  | string s => s.isEmpty
  | list items => items.isEmpty
  | map entries => entries.isEmpty
  | bool _ | integer _ | float _ => false

/-- The text of a scalar; null and collections have none. -/
def text? : Value → Option String
  | bool b => some (if b then "true" else "false")
  | integer n => some (Decimal.integerText n)
  | float x => some (Decimal.floatText x)
  | string s => some s
  | null | list _ | map _ => none

/-- Whether a condition holds of a value: a number that is neither zero nor no number at all, or
anything else that is not empty. -/
def isTruthy : Value → Bool
  | bool b => b
  | integer n => n != 0
  | float x => x.toFloat != 0.0 && !x.toFloat.isNaN
  | v => !v.isEmpty

/-- The number that a value is compared as. -/
def number? : Value → Option Float
  | integer n => some (Decimal.floatOfInteger n)
  | float x => some x.toFloat
  | _ => none

mutual

/-- Equality of values. Floats are compared as numbers, so a value that holds one that is no
number differs from itself. -/
def beq : Value → Value → Bool
  | null, null => true
  | bool a, bool b => a == b
  | integer a, integer b => a == b
  | float a, float b => a.toFloat == b.toFloat
  | string a, string b => a == b
  | list a, list b => beqItems a b
  | map a, map b => beqEntries a b
  | _, _ => false

/-- Equality of lists of values. -/
def beqItems : List Value → List Value → Bool
  | [], [] => true
  | a :: as, b :: bs => beq a b && beqItems as bs
  | _, _ => false

/-- Equality of entries. -/
def beqEntries : List (String × Value) → List (String × Value) → Bool
  | [], [] => true
  | (k, a) :: as, (l, b) :: bs => k == l && beq a b && beqEntries as bs
  | _, _ => false

end

/-- Values are compared as their kinds are, floats as numbers. -/
instance : BEq Value := ⟨beq⟩

end Value

end TreeTemplate
