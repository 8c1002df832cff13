import TreeTemplate.Document.Supply

/-!
# Nodes of trees by their identity

Finding, changing and taking out the node with an identity, in a tree or in one of several trees.
No two nodes have the same identity, so the order in which they are visited does not matter; the
last ones are visited first, since most work is done on nodes that were just put behind others.

Main statements:

* `find?_label`, `findIn?_label` — what is found has the identity that was asked for;
* `findIn?_append` — of trees in two parts the last part is searched first.
-/

namespace TreeTemplate.Tree

mutual

/-- The node with an identity. -/
def find? (n : NodeId) : Tree NodeId → Option (Tree NodeId)
  | element m tag attrs hidden children =>
    if m = n then some (element m tag attrs hidden children) else findIn? n children
  | text m content => if m = n then some (text m content) else none

/-- The node with an identity in one of several trees. -/
def findIn? (n : NodeId) : List (Tree NodeId) → Option (Tree NodeId)
  | [] => none
  | t :: ts =>
    match findIn? n ts with
    | some found => some found
    | none => t.find? n

end

mutual

/-- What is found has the identity that was asked for. -/
theorem find?_label {n : NodeId} {t found : Tree NodeId} (h : t.find? n = some found) :
    found.label = n := by
  cases t with
  | element m tag attrs hidden children =>
    simp only [find?] at h
    split at h
    · rename_i hm
      simp only [Option.some.injEq] at h
      rw [← h, ← hm, label]
    · exact findIn?_label h
  | text m content =>
    simp only [find?] at h
    split at h
    · rename_i hm
      simp only [Option.some.injEq] at h
      rw [← h, ← hm, label]
    · simp at h

/-- What is found in several trees has the identity that was asked for. -/
theorem findIn?_label {n : NodeId} {ts : List (Tree NodeId)} {found : Tree NodeId}
    (h : findIn? n ts = some found) : found.label = n := by
  cases ts with
  | nil => simp [findIn?] at h
  | cons t ts =>
    simp only [findIn?] at h
    cases hts : findIn? n ts with
    | some other =>
      simp only [hts, Option.some.injEq] at h
      exact findIn?_label (h ▸ hts)
    | none =>
      simp only [hts] at h
      exact find?_label h

end

/-- Of trees in two parts the last part is searched first. -/
theorem findIn?_append (n : NodeId) (first later : List (Tree NodeId)) :
    findIn? n (first ++ later) = (findIn? n later).or (findIn? n first) := by
  induction first with
  | nil => simp [findIn?]
  | cons t first ih =>
    simp only [List.cons_append, findIn?, ih]
    cases findIn? n later <;> simp

mutual

/-- A tree with the node of an identity changed. -/
def update? (n : NodeId) (f : Tree NodeId → Tree NodeId) : Tree NodeId → Option (Tree NodeId)
  | element m tag attrs hidden children =>
    if m = n then some (f (element m tag attrs hidden children))
    else (updateIn? n f children).map (element m tag attrs hidden)
  | text m content => if m = n then some (f (text m content)) else none

/-- Several trees with the node of an identity changed. -/
def updateIn? (n : NodeId) (f : Tree NodeId → Tree NodeId) :
    List (Tree NodeId) → Option (List (Tree NodeId))
  | [] => none
  | t :: ts =>
    match updateIn? n f ts with
    | some ts => some (t :: ts)
    | none => (t.update? n f).map (· :: ts)

end

mutual

/-- The node with an identity below the top of a tree, and the tree without it. -/
def takeBelow? (n : NodeId) : Tree NodeId → Option (Tree NodeId × Tree NodeId)
  | element m tag attrs hidden children =>
    (takeIn? n children).map fun (taken, children) => (taken, element m tag attrs hidden children)
  | text _ _ => none

/-- The node with an identity in one of several trees, and the trees without it. -/
def takeIn? (n : NodeId) : List (Tree NodeId) → Option (Tree NodeId × List (Tree NodeId))
  | [] => none
  | t :: ts =>
    match takeIn? n ts with
    | some (taken, ts) => some (taken, t :: ts)
    | none =>
      if t.label = n then some (t, ts)
      else (t.takeBelow? n).map fun (taken, t) => (taken, t :: ts)

end

mutual

/-- The identity of the node that is directly above the node with an identity. -/
def parent? (n : NodeId) : Tree NodeId → Option NodeId
  | element m _ _ _ children =>
    if children.any fun child => child.label = n then some m else parentIn? n children
  | text _ _ => none

/-- The identity of the node directly above another one, in one of several trees. -/
def parentIn? (n : NodeId) : List (Tree NodeId) → Option NodeId
  | [] => none
  | t :: ts =>
    match parentIn? n ts with
    | some m => some m
    | none => t.parent? n

end

mutual

/-- The identities of a tree in the order in which they are given back: those below a node before
its own. -/
def released : Tree NodeId → List NodeId
  | element n _ _ _ children => releasedOf children ++ [n]
  | text n _ => [n]

/-- The identities of several trees in the order in which they are given back. -/
def releasedOf : List (Tree NodeId) → List NodeId
  | [] => []
  | t :: ts => t.released ++ releasedOf ts

end

mutual

/-- The identities of the elements below a node, the last ones first, each before those below
it. -/
def elementsBackward : Tree NodeId → List NodeId
  | element _ _ _ _ children => elementsBackwardOf children
  | text _ _ => []

/-- The identities of the elements of several trees, the last ones first, each before those below
it. -/
def elementsBackwardOf : List (Tree NodeId) → List NodeId
  | [] => []
  | t :: ts =>
    elementsBackwardOf ts ++ (if t.isElement then t.label :: t.elementsBackward else [])

end

end TreeTemplate.Tree
