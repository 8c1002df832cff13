import TreeTemplate.Walk.Basic

/-!
# Templates of items and entries

A list or a map gives away its templates the first time it is filled, and keeps them stashed as long
as it stays in the tree. Where an element is removed, the templates that are stashed for it are
removed with it.
-/

namespace TreeTemplate.Walk

/-- Takes what is stashed for an element. -/
def takeStored (n : NodeId) : Walk (Option Stored) := do
  match (← get).stash.take? n with
  | some (stored, rest) => do
    modify fun s => { s with stash := rest }
    return some stored
  | none => return none

/-- Takes nodes out of an element and stashes them for it. -/
def stashTemplates (n : NodeId) (stored : Stored) : Walk Unit := do
  stored.templates.forM fun template => edit template fun n d => d.detach? n
  modify fun s => { s with stash := s.stash.insert n stored }

/-- The template of the items of a list: what is stashed for it, or else its first element. -/
def itemTemplate (n : NodeId) : Walk NodeId := do
  match (← get).stash.find? n with
  | some (.item template) => return template
  | some (.entry _ _) => refuse .holdsEntryTemplates
  | none => do
    let t ← node n
    match t.elements with
    | template :: _ => do
      stashTemplates n (.item template.label)
      return template.label
    | [] => refuse (.missingItem t.describe)

/-- The templates of the keys and the values of a map: what is stashed for it, or else its first
two elements. -/
def entryTemplates (n : NodeId) : Walk (NodeId × NodeId) := do
  match (← get).stash.find? n with
  | some (.entry key value) => return (key, value)
  | some (.item _) => refuse .holdsItemTemplate
  | none => do
    let t ← node n
    match t.elements with
    | key :: value :: _ => do
      stashTemplates n (.entry key.label value.label)
      return (key.label, value.label)
    | [_] => refuse (.missingValue t.describe)
    | [] => refuse (.missingKey t.describe)

/-- Removes the templates that are stashed for the elements below a node, and those that are stashed
for the elements of these templates. There is room for as many templates inside one another. -/
def forgetWithin : Nat → NodeId → Walk Unit
  | 0, _ => pure ()
  | room + 1, n => do
    if (← get).stash.isEmpty then pure ()
    else
      (← node n).elementsBackward.forM fun element => do
        match ← takeStored element with
        | none => pure ()
        | some stored => do
          stored.templates.forM (forgetWithin room)
          stored.templates.forM remove

/-- Removes the templates that are stashed for the elements below a node. -/
def forgetBelow (n : NodeId) : Walk Unit := do
  forgetWithin (← get).stash.entries.length n

/-- Removes everything below an element, and the templates that are stashed for it. -/
def clear (n : NodeId) : Walk Unit := do
  forgetBelow n
  edit n fun n d => d.removeChildren? n

/-- Puts a text in the place of everything below an element, and removes the templates that are
stashed for it. -/
def fillText (n : NodeId) (content : String) : Walk Unit := do
  forgetBelow n
  edit n fun n d => d.setText? n content

end TreeTemplate.Walk
