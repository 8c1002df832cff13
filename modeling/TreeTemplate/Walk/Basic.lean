import TreeTemplate.Document.Basic
import TreeTemplate.Fault
import TreeTemplate.Stash

/-!
# Walks

A walk goes through a tree, changes it, and collects what went wrong on the way. It knows the
positions in the ordered lists and maps around it, and how many elements it has entered.

Main statements:

* `counting_positions`, `advance_positions` — an ordered list or map gives the positions around it
  back as they were found;
* `deeper_depth` — an element is left at the depth at which it was entered.
-/

namespace TreeTemplate

/-- What stops a walk. -/
inductive Stop where
  | fault (f : Fault)
  /-- A node was looked up that the document no longer has. -/
  | missing (n : NodeId)
deriving Repr, DecidableEq

/-- What a walk works on. -/
structure Walk.State where
  document : Document
  /-- The templates that were taken out of the lists and maps. -/
  stash : Stash := {}
  /-- The positions in the ordered lists and maps around, the innermost first. -/
  positions : List Nat := []
  /-- The number of elements that have been entered and not left. -/
  depth : Nat := 0
  /-- The faults that did not stop the walk, in order. -/
  diagnostics : List Fault := []
  /-- The faults that were reported, in order. -/
  reported : List Fault := []

/-- A walk. Where it stops, what it did before stays done. -/
abbrev Walk := ExceptT Stop (StateM Walk.State)

namespace Walk

variable {α : Type}

/-! ## Stopping -/

/-- Stops for a cause. -/
def refuse (cause : Cause) : Walk α :=
  throw (.fault ⟨cause, none⟩)

/-- What was found, or the cause why it was not. -/
def check : Except Cause α → Walk α
  | .ok a => pure a
  | .error cause => refuse cause

/-- What was read from an operand, or the place where it is wrong. -/
def checkOperand : Except OperandError α → Walk α
  | .ok a => pure a
  | .error error => refuse (.malformed error)

/-! ## The tree -/

/-- The node with an identity. -/
def node (n : NodeId) : Walk (Tree NodeId) := do
  match (← get).document.find? n with
  | some t => pure t
  | none => throw (.missing n)

/-- Changes the document at a node. -/
def edit (n : NodeId) (f : NodeId → Document → Option Document) : Walk Unit := do
  match f n (← get).document with
  | some d => modify fun s => { s with document := d }
  | none => throw (.missing n)

/-- Changes a node and leaves what is below it in place. -/
def editNode (n : NodeId) (f : Tree NodeId → Tree NodeId) : Walk Unit :=
  edit n fun n d => d.update? n f

/-- Sets an attribute, or removes it if there is no value for it. -/
def putAttribute (n : NodeId) (name : String) : Option String → Walk Unit
  | some value => editNode n (·.setAttr name value)
  | none => editNode n (·.removeAttr name)

/-- Removes the texts directly below an element. -/
def removeText (n : NodeId) : Walk Unit :=
  edit n fun n d => d.removeText? n

/-- Removes a node and everything below it. -/
def remove (n : NodeId) : Walk Unit :=
  edit n fun n d => d.remove? n

/-- Puts a copy of a node behind the nodes below an element. -/
def appendCopy (parent template : NodeId) : Walk NodeId := do
  match (← get).document.clone? template true with
  | none => throw (.missing template)
  | some (copy, d) => do
    modify fun s => { s with document := d }
    edit parent fun n d => d.append? n copy
    return copy

/-! ## Positions and depth -/

/-- Runs a walk inside one more ordered list or map if it is one. -/
def counting (ordered : Bool) (act : Walk α) : Walk α :=
  if ordered then
    fun s =>
      let left := act { s with positions := 0 :: s.positions }
      (left.1, { left.2 with positions := left.2.positions.tail })
  else act

/-- Goes on to the next item of the innermost ordered list or map if it is one. -/
def advance (ordered : Bool) : Walk Unit :=
  if ordered then
    modify fun s => { s with positions := s.positions.modifyHead (· + 1) }
  else pure ()

/-- Runs a walk inside one more element. -/
def deeper (act : Walk α) : Walk α := fun s =>
  let left := act { s with depth := s.depth + 1 }
  (left.1, { left.2 with depth := left.2.depth - 1 })

/-- Stops because an element cannot be entered. -/
def refuseDepth (n : NodeId) : Walk α := do
  refuse (.tooDeep (← get).depth (← node n).describe)

/-- A walk that keeps the positions around the innermost ordered list or map is left with the
positions that it began with. -/
theorem counting_positions {act : Walk α}
    (h : ∀ s, (act s).2.positions.tail = s.positions.tail) (s : State) :
    (counting true act s).2.positions = s.positions :=
  h { s with positions := 0 :: s.positions }

/-- Going on to the next item keeps the positions around the innermost ordered list or map. -/
theorem advance_positions (ordered : Bool) (s : State) :
    (advance ordered s).2.positions.tail = s.positions.tail := by
  cases ordered with
  | false => rfl
  | true =>
    change (s.positions.modifyHead (· + 1)).tail = s.positions.tail
    cases s.positions <;> rfl

/-- An element is left at the depth at which it was entered. -/
theorem deeper_depth {act : Walk α} (h : ∀ s, (act s).2.depth = s.depth) (s : State) :
    (deeper act s).2.depth = s.depth := by
  simp [deeper, h]

end Walk

end TreeTemplate
