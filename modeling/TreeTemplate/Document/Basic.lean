import TreeTemplate.Document.Forest
import TreeTemplate.Markup.Parser
import TreeTemplate.Markup.Writer

/-!
# Documents

A document is a forest: the tree of its document node, and the trees that have been taken out of it
or not yet put into it. Nodes are addressed by their identities. A document whose nodes are taken
apart and put together again stays the same document, and a node that is taken out keeps its
identity until it is removed.

An operation on an identity that no node has is undefined. So is one that puts something below a
text, for which a tree has no room: a document is what an arena holds as long as nothing is put
there.

Main statements:

* `parse_eq_ok` — a document is read where its markup is accepted;
* `clone?_bare` — a copy has the shape of what is copied.
-/

namespace TreeTemplate

/-- A document. -/
structure Document where
  /-- The trees of nodes that are in no other tree, the new ones behind the old ones. -/
  trees : List (Tree NodeId)
  supply : Supply

namespace Document

/-- The identity of the document node, which holds the nodes at the top of the markup. -/
def root : NodeId := ⟨0⟩

/-- A document whose document node holds the given trees. -/
def ofTrees {ι : Type} (trees : List (Tree ι)) : Document :=
  let content := trees.map (·.relabel some)
  let (tree, supply) := Supply.plant {} (.element none "#document" [] false content)
  ⟨[tree], supply⟩

/-- The document without any content. -/
def empty : Document :=
  ofTrees ([] : List (Tree Unit))

/-- A document without any content, where none is given. -/
instance : Inhabited Document := ⟨empty⟩

/-- Reads a document. -/
def parse (markup : String) : Except Markup.Fault Document :=
  (Markup.parse markup).map ofTrees

/-- A document is read where its markup is accepted. -/
theorem parse_eq_ok {markup : String} {d : Document} :
    parse markup = .ok d ↔ ∃ trees, Markup.parse markup = .ok trees ∧ ofTrees trees = d := by
  unfold parse
  cases Markup.parse markup <;> simp [Except.map]

/-! ## Looking -/

/-- The number of nodes, in the tree of the document node or not. -/
def nodeCount (d : Document) : Nat :=
  d.supply.inUse

/-- The node with an identity and what is below it. -/
def find? (d : Document) (n : NodeId) : Option (Tree NodeId) :=
  Tree.findIn? n d.trees

/-- The nodes in the tree of the document node, each before those below it. -/
def attached (d : Document) : List (Tree NodeId) :=
  ((d.find? root).map Tree.nodes).getD []

/-- The elements of the markup, each before those below it. -/
def elements (d : Document) : List (Tree NodeId) :=
  (d.attached.drop 1).filter Tree.isElement

/-- The elements with a tag, in the order of the markup. -/
def withTag (d : Document) (tag : String) : List NodeId :=
  (d.attached.filter fun t => t.isElement && t.tag = tag).map Tree.label

/-- The first element with an `id`. -/
def withId? (d : Document) (id : String) : Option NodeId :=
  (d.attached.find? fun t => t.attrs.any fun attr => attr.1 = "id" && attr.2 = id).map Tree.label

/-- The node directly above a node, if it has one. -/
def parent? (d : Document) (n : NodeId) : Option NodeId :=
  Tree.parentIn? n d.trees

/-- A document as markup. -/
def markup (d : Document) : String :=
  ((d.find? root).map fun t => Tree.markups t.children).getD ""

/-! ## Changing -/

/-- Changes a node and leaves what is below it in place. -/
def update? (d : Document) (n : NodeId) (f : Tree NodeId → Tree NodeId) : Option Document :=
  (Tree.updateIn? n f d.trees).map fun trees => { d with trees := trees }

/-- Plants a tree behind the others. -/
def plant {ι : Type} (d : Document) (t : Tree ι) : NodeId × Document :=
  let (tree, supply) := d.supply.plant t
  (tree.label, ⟨d.trees ++ [tree], supply⟩)

/-- A new element in no other tree. -/
def create (d : Document) (tag : String) : NodeId × Document :=
  d.plant (.element () tag [] false [])

/-- Takes a node out of the tree it is in. -/
def detach? (d : Document) (n : NodeId) : Option Document :=
  (Tree.takeIn? n d.trees).map fun (taken, trees) => { d with trees := trees ++ [taken] }

/-- Puts a node behind those below an element, from wherever it is. It must not be above that
element. There is no room for it below a text. -/
def append? (d : Document) (parent child : NodeId) : Option Document := do
  let (taken, trees) ← Tree.takeIn? child d.trees
  let found ← Tree.findIn? parent trees
  if found.isElement then
    let trees ← Tree.updateIn? parent (fun t => t.setChildren (t.children ++ [taken])) trees
    some { d with trees := trees }
  else none

/-- Removes a node and everything below it. -/
def remove? (d : Document) (n : NodeId) : Option Document :=
  (Tree.takeIn? n d.trees).map fun (taken, trees) => ⟨trees, d.supply.give taken.released⟩

/-- Removes the nodes directly below a node for which a test holds, and everything below them. -/
def removeChildrenWhere? (d : Document) (n : NodeId) (test : Tree NodeId → Bool) :
    Option Document := do
  let t ← d.find? n
  let (removed, kept) := t.children.partition test
  let d ← d.update? n (·.setChildren kept)
  some { d with supply := d.supply.give (Tree.releasedOf removed) }

/-- Removes everything below a node. -/
def removeChildren? (d : Document) (n : NodeId) : Option Document :=
  d.removeChildrenWhere? n fun _ => true

/-- Removes the texts directly below a node. -/
def removeText? (d : Document) (n : NodeId) : Option Document :=
  d.removeChildrenWhere? n fun t => !t.isElement

/-- Puts planted trees in the place of everything below an element. There is no room for them below
a text. -/
def replaceChildren? {ι : Type} (d : Document) (n : NodeId) (trees : List (Tree ι)) :
    Option Document := do
  let t ← d.find? n
  if t.isElement then
    let (planted, supply) := (d.supply.give (Tree.releasedOf t.children)).plantAll trees
    let d ← d.update? n (·.setChildren planted)
    some { d with supply := supply }
  else none

/-- Puts a text in the place of everything below an element. -/
def setText? (d : Document) (n : NodeId) (content : String) : Option Document :=
  d.replaceChildren? n [.text () content]

/-- Puts what markup holds in the place of everything below an element. If something is wrong with
the markup, nothing is left there. -/
def setMarkup? (d : Document) (n : NodeId) (markup : String) :
    Option (Document × Option Markup.Fault) := do
  let contents := Markup.read markup
  let d ← d.replaceChildren? n contents.trees
  match contents.fault? with
  | none => some (d, none)
  | some fault => some (← d.removeChildren? n, some fault)

/-- A copy of a node in no other tree, with or without what is below it. -/
def clone? (d : Document) (n : NodeId) (deep : Bool) : Option (NodeId × Document) :=
  (d.find? n).map fun t => d.plant (if deep then t else t.setChildren [])

/-- A planted tree is found under its identity, with the shape of what was planted. -/
theorem plant_find?_bare {ι : Type} (d : Document) (t : Tree ι) :
    ((d.plant t).2.find? (d.plant t).1).map Tree.bare = some t.bare := by
  have h : (d.supply.plant t).1.find? (d.supply.plant t).1.label = some (d.supply.plant t).1 := by
    cases (d.supply.plant t).1 <;> simp [Tree.find?, Tree.label]
  simp [plant, find?, Tree.findIn?_append, Tree.findIn?, h, Supply.plant_bare]

/-- A copy has the shape of what is copied. -/
theorem clone?_bare {d copied : Document} {n copy : NodeId} {t : Tree NodeId}
    (hn : d.find? n = some t) (h : d.clone? n true = some (copy, copied)) :
    (copied.find? copy).map Tree.bare = some t.bare := by
  simp only [clone?, hn, Option.map_some, if_true, Option.some.injEq] at h
  have := plant_find?_bare d t
  rw [h] at this
  exact this

end Document

end TreeTemplate
