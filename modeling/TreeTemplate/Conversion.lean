import TreeTemplate.Value

/-!
# Conversions to values

The types whose elements are values of a model: the unit and what is absent are null, the integers
of up to 64 signed bits and the floats keep their number, characters are strings, and lists are
lists of what their items are.

Main statements:

* `toValue_append` — the items of two lists one after another are those of the appended list.
-/

namespace TreeTemplate

/-- The types whose elements are values of a model. -/
class ToValue (α : Type) where
  toValue : α → Value

export ToValue (toValue)

variable {α : Type}

/-- A value is itself. -/
instance : ToValue Value := ⟨id⟩

/-- The unit is null. -/
instance : ToValue Unit := ⟨fun _ => .null⟩

/-- A truth value is itself. -/
instance : ToValue Bool := ⟨.bool⟩

/-- An integer of 64 bits is itself. -/
instance : ToValue Int64 := ⟨.integer⟩

/-- An integer of 32 bits keeps its number. -/
instance : ToValue Int32 := ⟨fun n => .integer n.toInt64⟩

/-- An integer of 16 bits keeps its number. -/
instance : ToValue Int16 := ⟨fun n => .integer n.toInt64⟩

/-- An integer of 8 bits keeps its number. -/
instance : ToValue Int8 := ⟨fun n => .integer n.toInt64⟩

/-- A natural number of 32 bits keeps its number, which is one of 64 signed bits. -/
instance : ToValue UInt32 := ⟨fun n => .integer (Int64.ofNat n.toNat)⟩

/-- A natural number of 16 bits keeps its number. -/
instance : ToValue UInt16 := ⟨fun n => .integer (Int64.ofNat n.toNat)⟩

/-- A natural number of 8 bits keeps its number. -/
instance : ToValue UInt8 := ⟨fun n => .integer (Int64.ofNat n.toNat)⟩

/-- A float of double precision keeps its bits. -/
instance : ToValue Decimal.Double := ⟨.float⟩

/-- A float of single precision is widened to one of double precision. -/
instance : ToValue Decimal.Single := ⟨fun x => .float x.toDouble⟩

/-- A string is itself. -/
instance : ToValue String := ⟨.string⟩

/-- A character is the string that consists of it. -/
instance : ToValue Char := ⟨fun c => .string c.toString⟩

/-- What is there is its value, and what is absent is null. -/
instance [ToValue α] : ToValue (Option α) := ⟨fun a? => (a?.map toValue).getD .null⟩

/-- The items of a list are converted one by one. -/
instance [ToValue α] : ToValue (List α) := ⟨fun items => .list (items.map toValue)⟩

/-- A map from names to what is a value; of two pairs with the same name the later one counts. -/
def Value.ofPairsOf [ToValue α] (pairs : List (String × α)) : Value :=
  .ofPairs (pairs.map fun pair => (pair.1, toValue pair.2))

/-- The items of two lists one after another are those of the appended list. -/
theorem toValue_append [ToValue α] (first later : List α) :
    toValue (first ++ later) = .list (first.map toValue ++ later.map toValue) := by
  simp [toValue]

end TreeTemplate
