import TreeTemplate.Document.Forest
import Mathlib.Tactic.Lemma

/-!
# Changes of elements

A change of an element itself gives it other attributes, or hides or shows it. Its identity, its
kind and what is below it stay.

Main statements:

* `restyles_mapAttrs`, `restyles_setHidden`, `restyles_addClass`, `restyles_removeClass` — changes
  of this kind.
-/

namespace TreeTemplate.Tree

variable {ι : Type}

/-- Adding a class is a change of the attributes. -/
lemma exists_mapAttrs_addClass (t : Tree ι) (name : String) :
    ∃ g, t.addClass name = t.mapAttrs g := by
  unfold addClass
  split
  · exact ⟨id, by cases t <;> rfl⟩
  · exact ⟨_, rfl⟩

/-- Removing a class is a change of the attributes. -/
lemma exists_mapAttrs_removeClass (t : Tree ι) (name : String) :
    ∃ g, t.removeClass name = t.mapAttrs g := by
  unfold removeClass
  split
  · exact ⟨id, by cases t <;> rfl⟩
  · dsimp only
    split <;> exact ⟨_, rfl⟩

/-- A change of the element itself: its identity, its kind and what is below it stay. -/
structure Restyles (t u : Tree NodeId) : Prop where
  label : u.label = t.label
  isElement : u.isElement = t.isElement
  released : u.released = t.released

/-- A change of the attributes is one of the element itself. -/
lemma restyles_mapAttrs (t : Tree NodeId) (g : List (String × String) → List (String × String)) :
    t.Restyles (t.mapAttrs g) := by
  cases t <;> exact ⟨rfl, rfl, rfl⟩

/-- Hiding or showing an element is a change of the element itself. -/
lemma restyles_setHidden (t : Tree NodeId) (hidden : Bool) :
    t.Restyles (t.setHidden hidden) := by
  cases t <;> exact ⟨rfl, rfl, rfl⟩

/-- Adding a class is a change of the element itself. -/
lemma restyles_addClass (t : Tree NodeId) (name : String) : t.Restyles (t.addClass name) := by
  obtain ⟨g, e⟩ := exists_mapAttrs_addClass t name
  exact e ▸ restyles_mapAttrs t g

/-- Removing a class is a change of the element itself. -/
lemma restyles_removeClass (t : Tree NodeId) (name : String) :
    t.Restyles (t.removeClass name) := by
  obtain ⟨g, e⟩ := exists_mapAttrs_removeClass t name
  exact e ▸ restyles_mapAttrs t g

/-- A function that changes every node only itself. -/
structure RestylesOnly (f : Tree NodeId → Tree NodeId) : Prop where
  restyles : ∀ t : Tree NodeId, t.Restyles (f t)
  children : ∀ t, (f t).children = t.children

/-- An element that is changed itself is an element with the same below it. -/
lemma RestylesOnly.exists_element {f : Tree NodeId → Tree NodeId} (hf : RestylesOnly f) (m : NodeId)
    (tag : String) (attrs : List (String × String)) (hidden : Bool)
    (children : List (Tree NodeId)) :
    ∃ tag' attrs' hidden',
      f (element m tag attrs hidden children) = element m tag' attrs' hidden' children := by
  let t : Tree NodeId := element m tag attrs hidden children
  have hl : (f t).label = m := (hf.restyles t).label
  have he : (f t).isElement = true := (hf.restyles t).isElement
  have hc : (f t).children = children := hf.children t
  generalize f t = u at hl he hc
  cases u with
  | element m' tag' attrs' hidden' children' => exact ⟨tag', attrs', hidden', hl ▸ hc ▸ rfl⟩
  | text => cases he

/-- A change of the attributes leaves what is below an element as it is. -/
lemma children_mapAttrs (t : Tree NodeId) (g : List (String × String) → List (String × String)) :
    (t.mapAttrs g).children = t.children := by
  cases t <;> rfl

/-- Setting an attribute changes every node only itself. -/
lemma restylesOnly_setAttr (name value : String) : RestylesOnly (·.setAttr name value) :=
  ⟨fun t => t.restyles_mapAttrs _, fun t => t.children_mapAttrs _⟩

/-- Removing an attribute changes every node only itself. -/
lemma restylesOnly_removeAttr (name : String) : RestylesOnly (·.removeAttr name) :=
  ⟨fun t => t.restyles_mapAttrs _, fun t => t.children_mapAttrs _⟩

/-- Adding a class changes every node only itself. -/
lemma restylesOnly_addClass (name : String) : RestylesOnly (addClass name) where
  restyles t := t.restyles_addClass name
  children t := by
    obtain ⟨g, e⟩ := exists_mapAttrs_addClass t name
    exact e ▸ t.children_mapAttrs g

/-- Removing a class changes every node only itself. -/
lemma restylesOnly_removeClass (name : String) : RestylesOnly (removeClass name) where
  restyles t := t.restyles_removeClass name
  children t := by
    obtain ⟨g, e⟩ := exists_mapAttrs_removeClass t name
    exact e ▸ t.children_mapAttrs g

/-- Hiding or showing changes every node only itself. -/
lemma restylesOnly_setHidden (hidden : Bool) : RestylesOnly (·.setHidden hidden) :=
  ⟨fun t => t.restyles_setHidden hidden, fun t => by cases t <;> rfl⟩

end TreeTemplate.Tree
