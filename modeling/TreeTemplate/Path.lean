import TreeTemplate.Fault
import TreeTemplate.Text.Identifier
import TreeTemplate.Text.Naming

/-!
# Property paths

A path names a value: the scope itself, a value found from the root of the model, or a value found
from the scope. The segments of a path name the entries of maps and number the items of lists. A
hyphenated segment that a map does not have is looked up in camel case.

Null and undefined are different: a path that meets null ends there with null, a path that meets
something missing fails.

Main statements:

* `follow_append` — segments are followed one after another;
* `follow_null` — nothing is looked up in null.
-/

namespace TreeTemplate

/-- A property path. -/
inductive Path where
  /-- The scope itself. -/
  | scope
  /-- Segments that are followed from the root of the model. -/
  | absolute (segments : List String)
  /-- Segments that are followed from the scope. -/
  | relative (segments : List String)
deriving Repr, DecidableEq

namespace Path

/-- Whether a character may stand in a segment. -/
def isSegmentChar (c : Char) : Bool :=
  Text.continuesIdentifier c || c = '$' || c = '-'

/-- The span of a character that may not stand in a segment, if the text that begins at `start`
holds one. -/
def strayCharacter? (start : Nat) : List Char → Option Span
  | [] => none
  | c :: s =>
    if isSegmentChar c then strayCharacter? (start + c.utf8Size) s
    else some ⟨start, start + c.utf8Size⟩

/-- A span of one byte at `start`, moved into an operand of `length` bytes when it ends behind
it. -/
def byteWithin (start length : Nat) : Span :=
  if start + 1 > length then ⟨length - 1, length⟩ else ⟨start, start + 1⟩

/-- What is wrong with a segment of an operand. -/
def segmentError? (operand : String) (segment : Text.Piece) : Option OperandError :=
  if segment.chars.isEmpty then
    some ⟨.emptySegment, operand, byteWithin segment.start (Text.bytes operand.toList)⟩
  else
    (strayCharacter? segment.start segment.chars).map fun span =>
      ⟨.invalidPathCharacter, operand, span⟩

/-- The segments of the text that begins at `start` of an operand. -/
def segments (operand : String) (start : Nat) (s : List Char) :
    Except OperandError (List String) :=
  let pieces := Text.placeFrom start (Text.split '.' s)
  match pieces.findSome? (segmentError? operand) with
  | some error => .error error
  | none => .ok (pieces.map fun piece => String.ofList piece.chars)

/-- Reads a path. A path that begins with a dot is absolute. -/
def parse (operand : String) : Except OperandError Path :=
  match operand.toList with
  | ['.'] => .ok .scope
  | '.' :: s => (segments operand 1 s).map .absolute
  | s => (segments operand 0 s).map .relative

/-- The entry of a map that a segment names. -/
def entry? (entries : List (String × Value)) (segment : String) : Option Value :=
  match entries.lookup segment with
  | some value => some value
  | none =>
    if '-' ∈ segment.toList then
      entries.lookup (String.ofList (Text.camelCase segment.toList))
    else none

/-- The property of a value that a segment names. -/
def property (value : Value) (segment : String) : Except Cause Value :=
  match value with
  | .map entries =>
    match entry? entries segment with
    | some value => .ok value
    | none => .error (.undefinedProperty segment)
  | .list items =>
    match Decimal.readIndex? segment.toList with
    | none => .error (.undefinedOnList segment)
    | some index =>
      match items[index]? with
      | some value => .ok value
      | none => .error (.indexOutOfRange index items.length)
  | value => .error (.unreadableProperty segment value.kind)

/-- Follows segments from a value; null ends the way. -/
def follow (value : Value) : List String → Except Cause Value
  | [] => .ok value
  | segment :: segments =>
    if value.isNull then .ok value
    else do follow (← property value segment) segments

/-- Nothing is looked up in null. -/
theorem follow_null (segments : List String) : follow .null segments = .ok .null := by
  cases segments <;> rfl

/-- Segments are followed one after another. -/
theorem follow_append (value : Value) (first later : List String) :
    follow value (first ++ later) = (do follow (← follow value first) later) := by
  induction first generalizing value with
  | nil => rfl
  | cons segment first ih =>
    by_cases h : value.isNull
    · cases value <;> simp_all [Value.isNull]
      simp only [follow, Value.isNull, if_true]
      exact (follow_null later).symm
    · simp only [List.cons_append, follow, h]
      cases property value segment with
      | error e => rfl
      | ok v => exact ih v

/-- The value that a path names in a scope, under a model. -/
def resolve (model scope : Value) : Path → Except Cause Value
  | .scope => .ok scope
  | .absolute segments => follow model segments
  | .relative segments =>
    if scope.isComposite then follow scope segments
    else .error (.scalarScope (".".intercalate segments) scope.kind)

/-- The value that the operand of a directive names. -/
def read (model scope : Value) (operand : String) : Except Cause Value := do
  match parse operand with
  | .error error => .error (.malformed error)
  | .ok path => path.resolve model scope

/-- The items of the list that an operand names; null has none. -/
def readItems (model scope : Value) (operand : String) : Except Cause (List Value) := do
  match ← read model scope operand with
  | .list items => .ok items
  | .null => .ok []
  | value => .error (.expectedList operand value.kind)

/-- The entries of the map that an operand names; null has none. -/
def readEntries (model scope : Value) (operand : String) :
    Except Cause (List (String × Value)) := do
  match ← read model scope operand with
  | .map entries => .ok entries
  | .null => .ok []
  | value => .error (.expectedMap operand value.kind)

end Path

end TreeTemplate
