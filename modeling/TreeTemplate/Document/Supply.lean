import TreeTemplate.Tree

/-!
# Identities of nodes

Nodes of a document are told apart by numbers. A number that was given back is handed out again
before a new one is made, the last one given back first.

Main statements:

* `plant_bare` — a planted tree has the shape of what was planted.
-/

namespace TreeTemplate

/-- The identity of a node of a document. -/
structure NodeId where
  index : Nat
deriving Repr, DecidableEq

/-- The numbers that nodes can have: those below `size` have been made, and the free ones among
them are handed out from the first on. -/
structure Supply where
  size : Nat := 0
  free : List NodeId := []
deriving Repr, DecidableEq

namespace Supply

/-- Hands out an identity. -/
def take (s : Supply) : NodeId × Supply :=
  match s.free with
  | [] => (⟨s.size⟩, { s with size := s.size + 1 })
  | n :: free => (n, { s with free := free })

/-- Takes identities back, in order. -/
def give (s : Supply) (ids : List NodeId) : Supply :=
  { s with free := ids.reverse ++ s.free }

/-- The number of identities in use. -/
def inUse (s : Supply) : Nat :=
  s.size - s.free.length

mutual

/-- Gives the nodes of a tree identities of their own, each node before those below it. -/
def plant {ι : Type} (s : Supply) : Tree ι → Tree NodeId × Supply
  | .element _ tag attrs hidden children =>
    let (n, s) := s.take
    let (children, s) := plantAll s children
    (.element n tag attrs hidden children, s)
  | .text _ content =>
    let (n, s) := s.take
    (.text n content, s)

/-- Gives the nodes of several trees identities of their own. -/
def plantAll {ι : Type} (s : Supply) : List (Tree ι) → List (Tree NodeId) × Supply
  | [] => ([], s)
  | t :: ts =>
    let (t, s) := plant s t
    let (ts, s) := plantAll s ts
    (t :: ts, s)

end

mutual

/-- A planted tree has the shape of what was planted. -/
theorem plant_bare {ι : Type} (s : Supply) (t : Tree ι) : (s.plant t).1.bare = t.bare := by
  cases t with
  | element label tag attrs hidden children =>
    have h := plantAll_bare s.take.2 children
    simp only [Tree.bare] at h ⊢
    simp only [plant, Tree.relabel, h]
  | text label content => rfl

/-- Several trees that are planted have the shapes that they had. -/
theorem plantAll_bare {ι : Type} (s : Supply) (ts : List (Tree ι)) :
    Tree.relabelAll (fun _ => ()) (s.plantAll ts).1 = Tree.relabelAll (fun _ => ()) ts := by
  cases ts with
  | nil => rfl
  | cons t ts =>
    have h := plant_bare s t
    have hs := plantAll_bare (s.plant t).2 ts
    simp only [Tree.bare] at h
    simp only [plantAll, Tree.relabelAll, h, hs]

end

end Supply

end TreeTemplate
