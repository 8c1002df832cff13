import TreeTemplate.Text.Blank

/-!
# Element trees

A tree is made of elements and texts. Every node carries a label: nodes that were read from markup
have nothing to be told apart by, nodes of a document have an identity.

An element that is hidden belongs to the tree and is left out of what is shown of it.

Main statements:

* `attr?_setAttr_self`, `attr?_setAttr_of_ne` — what an attribute is after one is set;
* `relabel_relabel` — the labels do not influence the shape.
-/

namespace TreeTemplate

/-- A tree of elements and texts. -/
inductive Tree (ι : Type) where
  | element (label : ι) (tag : String) (attrs : List (String × String)) (hidden : Bool)
    (children : List (Tree ι))
  | text (label : ι) (content : String)

namespace Tree

variable {ι κ : Type}

/-- The label of a node. -/
def label : Tree ι → ι
  | element label _ _ _ _ => label
  | text label _ => label

/-- The tag of an element, and a word that is no tag for a text. -/
def tag : Tree ι → String
  | element _ tag _ _ _ => tag
  | text _ _ => "#text"

/-- The attributes of an element in order. -/
def attrs : Tree ι → List (String × String)
  | element _ _ attrs _ _ => attrs
  | text _ _ => []

/-- Whether a node is an element. -/
def isElement : Tree ι → Bool
  | element _ _ _ _ _ => true
  | text _ _ => false

/-- Whether a node is a hidden element. -/
def isHidden : Tree ι → Bool
  | element _ _ _ hidden _ => hidden
  | text _ _ => false

/-- The nodes directly below a node. -/
def children : Tree ι → List (Tree ι)
  | element _ _ _ _ children => children
  | text _ _ => []

/-- The elements directly below a node. -/
def elements (t : Tree ι) : List (Tree ι) :=
  t.children.filter isElement

/-- The value of an attribute. -/
def attr? (t : Tree ι) (name : String) : Option String :=
  t.attrs.lookup name

/-- A short description of an element: its tag, and its `id` if it has one. -/
def describe (t : Tree ι) : String :=
  match t.attr? "id" with
  | some id => s!"<{t.tag} id=\"{id}\">"
  | none => s!"<{t.tag}>"

/-- Puts a value in the place of an attribute, or behind the others if there is none of the
name. -/
def replaceAttr (name value : String) : List (String × String) → List (String × String)
  | [] => [(name, value)]
  | attr :: attrs =>
    if attr.1 = name then (name, value) :: attrs else attr :: replaceAttr name value attrs

/-- A node with other attributes; texts have none. -/
def mapAttrs (f : List (String × String) → List (String × String)) : Tree ι → Tree ι
  | element label tag attrs hidden children => element label tag (f attrs) hidden children
  | text label content => text label content

/-- A node with an attribute set. -/
def setAttr (name value : String) (t : Tree ι) : Tree ι :=
  t.mapAttrs (replaceAttr name value)

/-- A node without an attribute. -/
def removeAttr (name : String) (t : Tree ι) : Tree ι :=
  t.mapAttrs fun attrs => attrs.filter (·.1 ≠ name)

/-- A node hidden or shown. -/
def setHidden (hidden : Bool) : Tree ι → Tree ι
  | element label tag attrs _ children => element label tag attrs hidden children
  | text label content => text label content

/-- A node with other nodes below it; texts have none. -/
def setChildren (children : List (Tree ι)) : Tree ι → Tree ι
  | element label tag attrs hidden _ => element label tag attrs hidden children
  | text label content => text label content

/-- The classes of an element. -/
def classes (t : Tree ι) : List String :=
  (Text.words ((t.attr? "class").getD "").toList).map String.ofList

/-- An element with a class, behind those it has. -/
def addClass (name : String) (t : Tree ι) : Tree ι :=
  if name ∈ t.classes then t
  else t.setAttr "class" (" ".intercalate (t.classes ++ [name]))

/-- An element without a class; an attribute that would be empty is removed. -/
def removeClass (name : String) (t : Tree ι) : Tree ι :=
  match t.attr? "class" with
  | none => t
  | some _ =>
    let rest := " ".intercalate (t.classes.filter (· ≠ name))
    if rest = "" then t.removeAttr "class" else t.setAttr "class" rest

/-- An attribute that was set has its value. -/
theorem lookup_replaceAttr_self (name value : String) (attrs : List (String × String)) :
    (replaceAttr name value attrs).lookup name = some value := by
  induction attrs with
  | nil => simp [replaceAttr]
  | cons attr attrs ih =>
    obtain ⟨found, old⟩ := attr
    simp only [replaceAttr]
    split
    · simp
    · rename_i hne
      have : (name == found) = false := by simpa using fun e => hne (Eq.symm e)
      simp [List.lookup_cons, this, ih]

/-- The other attributes have theirs. -/
theorem lookup_replaceAttr_of_ne {name other : String} (h : other ≠ name) (value : String)
    (attrs : List (String × String)) :
    (replaceAttr name value attrs).lookup other = attrs.lookup other := by
  have hne : (other == name) = false := by simpa using h
  induction attrs with
  | nil => simp [replaceAttr, List.lookup_cons, hne]
  | cons attr attrs ih =>
    obtain ⟨found, old⟩ := attr
    simp only [replaceAttr]
    split
    · rename_i he
      have : (other == found) = false := by simpa [he] using h
      simp [List.lookup_cons, hne, this]
    · simp [List.lookup_cons, ih]

/-- The attribute that was set is found. -/
theorem attr?_setAttr_self {t : Tree ι} (h : t.isElement = true) (name value : String) :
    (t.setAttr name value).attr? name = some value := by
  cases t with
  | element => exact lookup_replaceAttr_self ..
  | text => simp [isElement] at h

/-- The other attributes are found as before. -/
theorem attr?_setAttr_of_ne (t : Tree ι) {name other : String} (h : other ≠ name)
    (value : String) : (t.setAttr name value).attr? other = t.attr? other := by
  cases t with
  | element => exact lookup_replaceAttr_of_ne h ..
  | text => rfl

mutual

/-- The text of a node, without that of hidden elements. -/
def textContent : Tree ι → String
  | element _ _ _ hidden children => if hidden then "" else textContents children
  | text _ content => content

/-- The texts of nodes side by side. -/
def textContents : List (Tree ι) → String
  | [] => ""
  | t :: ts => t.textContent ++ textContents ts

end

mutual

/-- A tree with other labels. -/
def relabel (f : ι → κ) : Tree ι → Tree κ
  | element label tag attrs hidden children =>
    element (f label) tag attrs hidden (relabelAll f children)
  | text label content => text (f label) content

/-- Trees with other labels. -/
def relabelAll (f : ι → κ) : List (Tree ι) → List (Tree κ)
  | [] => []
  | t :: ts => t.relabel f :: relabelAll f ts

end

/-- A tree without its labels. -/
def bare (t : Tree ι) : Tree Unit :=
  t.relabel fun _ => ()

mutual

/-- Labels that are replaced twice are replaced by both functions together. -/
theorem relabel_relabel {μ : Type} (f : ι → κ) (g : κ → μ) (t : Tree ι) :
    (t.relabel f).relabel g = t.relabel (g ∘ f) := by
  cases t with
  | element label tag attrs hidden children =>
    simp only [relabel, Function.comp, relabelAll_relabelAll f g children]
  | text label content => rfl

/-- Labels of several trees that are replaced twice are replaced by both functions together. -/
theorem relabelAll_relabelAll {μ : Type} (f : ι → κ) (g : κ → μ) (ts : List (Tree ι)) :
    relabelAll g (relabelAll f ts) = relabelAll (g ∘ f) ts := by
  cases ts with
  | nil => rfl
  | cons t ts => simp only [relabelAll, relabel_relabel f g t, relabelAll_relabelAll f g ts]

end

mutual

/-- A node and everything below it, each before what is below it. -/
def nodes : Tree ι → List (Tree ι)
  | element label tag attrs hidden children =>
    element label tag attrs hidden children :: nodesOf children
  | text label content => [text label content]

/-- Nodes side by side and everything below them. -/
def nodesOf : List (Tree ι) → List (Tree ι)
  | [] => []
  | t :: ts => t.nodes ++ nodesOf ts

end

end Tree

end TreeTemplate
