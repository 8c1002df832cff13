import TreeTemplate.Document.Basic

/-!
# Arenas

How a document is kept: its nodes are in slots, which are addressed by the identities of the nodes.
A node knows the node above it and the nodes directly below it by their identities. The slot of a
node that was removed is empty until it is given to a new node, the last one that became empty
first.

An identity is nothing but the number of a slot. One that was kept when its node was removed
addresses whatever node the slot is given to next, a text as well as an element, and no operation
asks which of the two it is given: an arena has room for nodes below a text. A `Document` is a
forest, which has not, and describes what an arena holds as long as nothing is put below a text.

An operation on an identity whose slot is empty is undefined. So is looking at an arena whose links
go round in a circle; no walk along links takes more steps than there are slots.

Main statements:

* `Arena.node?_put_self`, `Arena.node?_put_of_ne` — what is in the slots after one is filled;
* `Arena.supply_alloc` — slots are given out as identities are.
-/

namespace TreeTemplate

/-- What a node is, apart from its links. -/
inductive NodeData where
  | element (tag : String) (attrs : List (String × String)) (hidden : Bool)
  | text (content : String)
deriving Repr, DecidableEq

namespace NodeData

/-- A tree with a node at its top. -/
def tree {ι : Type} (label : ι) (children : List (Tree ι)) : NodeData → Tree ι
  | element tag attrs hidden => .element label tag attrs hidden children
  | text content => .text label content

/-- The node at the top of a tree. -/
def ofTree {ι : Type} : Tree ι → NodeData
  | .element _ tag attrs hidden _ => element tag attrs hidden
  | .text _ content => text content

/-- A node that stands alone. -/
def alone (data : NodeData) : Tree Unit :=
  data.tree () []

/-- A node that was changed where it stands alone. -/
def map (f : Tree Unit → Tree Unit) (data : NodeData) : NodeData :=
  ofTree (f data.alone)

/-- Whether a node is an element. -/
def isElement : NodeData → Bool
  | element _ _ _ => true
  | text _ => false

/-- The attributes of an element in order. -/
def attrs : NodeData → List (String × String)
  | element _ attrs _ => attrs
  | text _ => []

end NodeData

/-- What a slot holds: a node with its links. -/
structure Slot where
  parent : Option NodeId
  data : NodeData
  children : List NodeId
deriving Repr, DecidableEq

/-- Whether a slot holds a text with something below it. -/
def Slot.isCrowded (s : Slot) : Bool :=
  !s.data.isElement && !s.children.isEmpty

/-- A document as it is kept. -/
structure Arena where
  slots : Array (Option Slot) := #[]
  /-- The numbers of the empty slots, the one that became empty last in front. -/
  free : List NodeId := []
deriving Repr, DecidableEq

namespace Arena

variable {a : Arena} {n m : NodeId} {s : Slot}

/-! ## Slots -/

/-- The node with an identity. -/
def node? (a : Arena) (n : NodeId) : Option Slot :=
  a.slots[n.index]?.join

/-- Fills or empties a slot. -/
def put (a : Arena) (n : NodeId) (s? : Option Slot) : Arena :=
  { a with slots := a.slots.setIfInBounds n.index s? }

/-- Changes a node. -/
def modify? (a : Arena) (n : NodeId) (f : Slot → Slot) : Option Arena :=
  (a.node? n).map fun s => a.put n (some (f s))

/-- Changes what a node is, and leaves its links as they are. -/
def change? (a : Arena) (n : NodeId) (f : Tree Unit → Tree Unit) : Option Arena :=
  a.modify? n fun s => { s with data := s.data.map f }

/-- Gives a slot to a new node. -/
def alloc (a : Arena) (data : NodeData) : NodeId × Arena :=
  let s : Slot := ⟨none, data, []⟩
  match a.free with
  | [] => (⟨a.slots.size⟩, { a with slots := a.slots.push (some s) })
  | n :: free => (n, { a.put n (some s) with free := free })

/-- The slots as the numbers of the nodes. -/
def supply (a : Arena) : Supply :=
  ⟨a.slots.size, a.free⟩

/-- As many nodes as a walk along links can pass. -/
def room (a : Arena) : Nat :=
  a.slots.size

/-- The number of nodes. -/
def nodeCount (a : Arena) : Nat :=
  a.slots.size - a.free.length

/-- A node has a slot. -/
theorem index_lt_of_node? (h : a.node? n = some s) : n.index < a.slots.size := by
  rcases Nat.lt_or_ge n.index a.slots.size with hlt | hge
  · exact hlt
  · rw [node?, Array.getElem?_eq_none hge] at h
    cases h

/-- A slot holds what was put there. -/
theorem node?_put_self (h : n.index < a.slots.size) (s? : Option Slot) :
    (a.put n s?).node? n = s? := by
  simp [node?, put, h]

/-- The other slots hold what they held. -/
theorem node?_put_of_ne (h : m ≠ n) (s? : Option Slot) : (a.put n s?).node? m = a.node? m := by
  have hindex : n.index ≠ m.index := fun e =>
    h (by cases n; cases m; exact congrArg NodeId.mk e.symm)
  simp [node?, put, hindex]

/-- Filling or emptying a slot leaves the numbers of the slots as they are. -/
@[simp]
theorem supply_put (a : Arena) (n : NodeId) (s? : Option Slot) : (a.put n s?).supply =
    a.supply := by
  simp [supply, put]

/-- A slot is given out as an identity is. -/
theorem supply_alloc (a : Arena) (data : NodeData) :
    ((a.alloc data).1, (a.alloc data).2.supply) = a.supply.take := by
  unfold alloc Supply.take supply
  cases a.free <;> simp [put]

/-! ## Links -/

/-- The node directly above a node, if it has one. -/
def parent? (a : Arena) (n : NodeId) : Option NodeId :=
  (a.node? n).bind Slot.parent

/-- Takes a node out of the node above it. -/
def detach? (a : Arena) (n : NodeId) : Option Arena := do
  let s ← a.node? n
  match s.parent with
  | none => some a
  | some parent =>
    let a := a.put n (some { s with parent := none })
    a.modify? parent fun s => { s with children := s.children.filter (· ≠ n) }

/-- Puts a node that has been taken out behind those below a node. -/
def link? (a : Arena) (parent child : NodeId) : Option Arena := do
  let a ← a.modify? child fun s => { s with parent := some parent }
  a.modify? parent fun s => { s with children := s.children ++ [child] }

/-- Puts a node behind those below a node, from wherever it is. -/
def append? (a : Arena) (parent child : NodeId) : Option Arena := do
  let a ← a.detach? child
  a.link? parent child

/-! ## Releasing nodes -/

/-- Empties the slots of a node and of everything below it, and gives them back, those below a node
before its own. -/
def release : Nat → Arena → NodeId → Arena
  | 0, a, _ => a
  | room + 1, a, n =>
    match a.node? n with
    | none => a
    | some s =>
      let a := s.children.foldl (release room) (a.put n none)
      { a with free := n :: a.free }

/-- Removes a node and everything below it. -/
def remove? (a : Arena) (n : NodeId) : Option Arena := do
  let a ← a.detach? n
  some (release a.room a n)

/-- The nodes among some for which a test holds, and the other ones. -/
def partition? (a : Arena) (test : NodeData → Bool) : List NodeId → Option
    (List NodeId × List NodeId)
  | [] => some ([], [])
  | n :: ns => do
    let s ← a.node? n
    let (passed, failed) ← a.partition? test ns
    some (if test s.data then (n :: passed, failed) else (passed, n :: failed))

/-- Releases nodes, each of them as it is taken out of the node above it. -/
def releaseAll? (a : Arena) : List NodeId → Option Arena
  | [] => some a
  | n :: ns => do
    let a ← a.modify? n fun s => { s with parent := none }
    (release a.room a n).releaseAll? ns

/-- Removes the nodes directly below a node for which a test holds, and everything below them. -/
def removeChildrenWhere? (a : Arena) (n : NodeId) (test : NodeData → Bool) : Option Arena := do
  let s ← a.node? n
  let (removed, kept) ← a.partition? test s.children
  let a ← a.modify? n fun s => { s with children := kept }
  a.releaseAll? removed

/-- Removes everything below a node. -/
def removeChildren? (a : Arena) (n : NodeId) : Option Arena :=
  a.removeChildrenWhere? n fun _ => true

/-- Removes the texts directly below a node. -/
def removeText? (a : Arena) (n : NodeId) : Option Arena :=
  a.removeChildrenWhere? n fun data => !data.isElement

/-! ## New nodes -/

/-- The arena of a document without any content. -/
def empty : Arena :=
  (alloc {} (.element "#document" [] false)).2

/-- A new element without a parent. -/
def create (a : Arena) (tag : String) : NodeId × Arena :=
  a.alloc (.element tag [] false)

/-- A new node behind those below a node. -/
def grow? (a : Arena) (parent : NodeId) (data : NodeData) : Option (NodeId × Arena) := do
  let (n, a) := a.alloc data
  let a ← a.append? parent n
  some (n, a)

/-- Copies a node with everything below it, and puts the copies below one another. -/
def cloneDeep? : Nat → Arena → NodeId → Option (NodeId × Arena)
  | 0, _, _ => none
  | room + 1, a, n => do
    let s ← a.node? n
    let (copy, a) := a.alloc s.data
    let s ← a.node? n
    let a ← s.children.foldlM (fun a child => do
      let (below, a) ← cloneDeep? room a child
      a.append? copy below) a
    some (copy, a)

/-- A copy of a node without a parent, with or without what is below it. -/
def clone? (a : Arena) (n : NodeId) (deep : Bool) : Option (NodeId × Arena) :=
  if deep then cloneDeep? a.room a n
  else (a.node? n).map fun s => a.alloc s.data

/-- Puts a text in the place of everything below a node. -/
def setText? (a : Arena) (n : NodeId) (content : String) : Option Arena := do
  let a ← a.removeChildren? n
  let (_, a) ← a.grow? n (.text content)
  some a

/-! ## Reading markup -/

/-- An arena into which markup is read. -/
structure Growing where
  arena : Arena
  /-- The open elements, the innermost first. -/
  opened : List NodeId := []

/-- A new node at the place that was reached, which is below `base` where no element is open. -/
def Growing.grow? (g : Growing) (base : NodeId) (data : NodeData) : Option (NodeId × Growing) := do
  let (n, a) ← g.arena.grow? (g.opened.headD base) data
  some (n, { g with arena := a })

/-- Goes on over an event. -/
def Growing.step? (base : NodeId) (g : Growing) : Markup.Event → Option Growing
  | .text content => do
    let (_, g) ← g.grow? base (.text content)
    some g
  | .start tag attrs closed => do
    let (n, g) ← g.grow? base (.element tag attrs false)
    some (if closed then g else { g with opened := n :: g.opened })
  | .stop => some { g with opened := g.opened.tail }
  | .pass => some g

/-- Reads markup and puts what happens in it behind the nodes below a node, one event after another,
up to where something is wrong. -/
def read? (a : Arena) (n : NodeId) (markup : String) : Option (Arena × Option Markup.Fault) := do
  let (events, fault?) := Markup.events markup
  let g ← events.foldlM (Growing.step? n) ⟨a, []⟩
  some (g.arena, fault?)

/-- Reads a document. -/
def parse? (markup : String) : Option (Except Markup.Fault Arena) := do
  let (a, fault?) ← empty.read? Document.root markup
  match fault? with
  | none => some (.ok a)
  | some fault => some (.error fault)

/-- Puts what markup holds in the place of everything below a node. If something is wrong with the
markup, nothing is left there. -/
def setMarkup? (a : Arena) (n : NodeId) (markup : String) :
    Option (Arena × Option Markup.Fault) := do
  let a ← a.removeChildren? n
  let (a, fault?) ← a.read? n markup
  match fault? with
  | none => some (a, none)
  | some fault => some (← a.removeChildren? n, some fault)

/-! ## Looking -/

/-- A node and the nodes above it. -/
def above? : Nat → Arena → NodeId → Option (List NodeId)
  | 0, _, _ => none
  | room + 1, a, n => do
    let s ← a.node? n
    match s.parent with
    | none => some [n]
    | some parent => (above? room a parent).map (n :: ·)

/-- Whether the document node is above a node, or is that node. -/
def isAttached? (a : Arena) (n : NodeId) : Option Bool :=
  (above? a.room a n).map fun ns => ns.contains Document.root

/-- A node and everything below it, each before what is below it. -/
def visit? : Nat → Arena → NodeId → Option (List (NodeId × Slot))
  | 0, _, _ => none
  | room + 1, a, n => do
    let s ← a.node? n
    let below ← s.children.mapM (visit? room a)
    some ((n, s) :: below.flatten)

/-- The elements with a tag, in the order of the markup. -/
def withTag? (a : Arena) (tag : String) : Option (List NodeId) := do
  let found ← visit? a.room a Document.root
  let elements := found.filter fun (_, s) => s.data.isElement && s.data.alone.tag = tag
  some (elements.map Prod.fst)

/-- The first element with an `id`, if the document node is above it. -/
def withId? (a : Arena) (id : String) : Option (Option NodeId) := do
  let found ← visit? a.room a Document.root
  match found.find? fun (_, s) => s.data.attrs.any fun attr => attr.1 = "id" && attr.2 = id with
  | none => some none
  | some (n, _) =>
    let attached ← a.isAttached? n
    some (if attached then some n else none)

/-- The elements directly below a node. -/
def elements? (a : Arena) (n : NodeId) : Option (List NodeId) := do
  let s ← a.node? n
  let (elements, _) ← a.partition? NodeData.isElement s.children
  some elements

/-- What can be seen of a node and of what is below it: nothing below a text. -/
def tree? : Nat → Arena → NodeId → Option (Tree NodeId)
  | 0, _, _ => none
  | room + 1, a, n => do
    let s ← a.node? n
    match s.data with
    | .text content => some (.text n content)
    | .element tag attrs hidden =>
      let children ← s.children.mapM (tree? room a)
      some (.element n tag attrs hidden children)

/-! ## Forests -/

/-- The forest that an arena holds, unless something is below a text. -/
def document? (a : Arena) : Option Document := do
  let made := (List.range a.slots.size).map NodeId.mk
  if made.any fun n => (a.node? n).any Slot.isCrowded then none
  else
    let tops := made.filter fun n => (a.node? n).any fun s => s.parent.isNone
    let trees ← tops.mapM (tree? a.room a)
    some ⟨trees, a.supply⟩

end Arena

/-- What an arena holds for a node of a forest. -/
def Document.slot? (d : Document) (n : NodeId) : Option Slot :=
  (d.find? n).map fun t => ⟨d.parent? n, .ofTree t, t.children.map Tree.label⟩

/-- The arena that holds a forest. -/
def Document.arena (d : Document) : Arena :=
  ⟨(Array.range d.supply.size).map fun index => d.slot? ⟨index⟩, d.supply.free⟩

end TreeTemplate
