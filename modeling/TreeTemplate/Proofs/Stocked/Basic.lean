import TreeTemplate.Proofs.Forest.Identities
import TreeTemplate.Stash

/-!
# Stocked trees

A stocked tree is a tree whose elements keep the templates that were taken out of them: none, the
template of the items of a list, or the two templates of the entries of a map. It says in one piece
what a walk keeps in several: a tree of the document, the trees of the templates beside it, and the
entries of the stash that tie the two together.

Main statements:

* `labels_perm` — the labels of a stocked tree are those of its tree and of its templates;
* `keys_sublist_labels` — every element has at most one entry;
* `tree_bare`, `roots_ofTree`, `entries_ofTree` — stock and labels can be dropped.
-/

namespace TreeTemplate

/-- How an element looks, without what is below it. -/
structure Head where
  tag : String
  attrs : List (String × String)
  hidden : Bool

/-- A tree whose elements keep the templates that were taken out of them. -/
inductive Stocked (ι : Type) where
  | element (label : ι) (head : Head) (stock children : List (Stocked ι))
  | text (label : ι) (content : String)

namespace Stocked

variable {ι κ : Type}

/-- The label of a node. -/
def label : Stocked ι → ι
  | element label _ _ _ => label
  | text label _ => label

/-- Whether a node is an element. -/
def isElement : Stocked ι → Bool
  | element _ _ _ _ => true
  | text _ _ => false

/-- The templates that were taken out of an element. -/
def stock : Stocked ι → List (Stocked ι)
  | element _ _ stock _ => stock
  | text _ _ => []

mutual

/-- The tree without the templates. -/
def tree : Stocked ι → Tree ι
  | element label head _ children =>
    .element label head.tag head.attrs head.hidden (trees children)
  | text label content => .text label content

/-- Several trees without the templates. -/
def trees : List (Stocked ι) → List (Tree ι)
  | [] => []
  | t :: ts => t.tree :: trees ts

end

mutual

/-- The trees of the templates, those inside templates included. -/
def roots : Stocked ι → List (Tree ι)
  | element _ _ stock children => trees stock ++ rootsOf stock ++ rootsOf children
  | text _ _ => []

/-- The trees of the templates of several trees. -/
def rootsOf : List (Stocked ι) → List (Tree ι)
  | [] => []
  | t :: ts => t.roots ++ rootsOf ts

end

/-- What a stash holds for an element with the given templates. -/
def storedOf : List (Stocked NodeId) → Option Stored
  | [template] => some (.item template.label)
  | [key, value] => some (.entry key.label value.label)
  | _ => none

/-- What a stash holds for an element itself. -/
def ownEntries (n : NodeId) (stock : List (Stocked NodeId)) : List (NodeId × Stored) :=
  (storedOf stock).toList.map fun stored => (n, stored)

mutual

/-- What a stash holds for the elements of a tree and of its templates. -/
def entries : Stocked NodeId → List (NodeId × Stored)
  | element n _ stock children => ownEntries n stock ++ entriesOf stock ++ entriesOf children
  | text _ _ => []

/-- What a stash holds for the elements of several trees. -/
def entriesOf : List (Stocked NodeId) → List (NodeId × Stored)
  | [] => []
  | t :: ts => t.entries ++ entriesOf ts

end

mutual

/-- The labels of the nodes of a tree and of its templates. -/
def labels : Stocked ι → List ι
  | element label _ stock children => label :: (labelsOf stock ++ labelsOf children)
  | text label _ => [label]

/-- The labels of the nodes of several trees and of their templates. -/
def labelsOf : List (Stocked ι) → List ι
  | [] => []
  | t :: ts => t.labels ++ labelsOf ts

end

mutual

/-- A stocked tree without its labels. -/
def bare : Stocked ι → Stocked Unit
  | element _ head stock children => element () head (bareAll stock) (bareAll children)
  | text _ content => text () content

/-- Several stocked trees without their labels. -/
def bareAll : List (Stocked ι) → List (Stocked Unit)
  | [] => []
  | t :: ts => t.bare :: bareAll ts

end

mutual

/-- A tree without any templates. -/
def ofTree : Tree ι → Stocked ι
  | .element label tag attrs hidden children =>
    element label ⟨tag, attrs, hidden⟩ [] (ofTrees children)
  | .text label content => text label content

/-- Several trees without any templates. -/
def ofTrees : List (Tree ι) → List (Stocked ι)
  | [] => []
  | t :: ts => ofTree t :: ofTrees ts

end

/-- A tree as it is copied, without what was taken out of it. -/
def copy (t : Stocked ι) : Stocked ι :=
  ofTree t.tree

/-! ## Lists of trees -/

variable {t : Stocked ι} {ts us : List (Stocked ι)}

/-- The trees of several stocked trees, one by one. -/
@[simp]
lemma trees_eq_map (ts : List (Stocked ι)) : trees ts = ts.map tree := by
  induction ts with
  | nil => rfl
  | cons t ts ih => simp only [trees, ih, List.map_cons]

/-- The trees that stand for the templates of several stocked trees, one after another. -/
@[simp]
lemma rootsOf_eq_flatMap (ts : List (Stocked ι)) : rootsOf ts = ts.flatMap roots := by
  induction ts with
  | nil => rfl
  | cons t ts ih => simp only [rootsOf, ih, List.flatMap_cons]

/-- The entries of several stocked trees, one after another. -/
@[simp]
lemma entriesOf_eq_flatMap (ts : List (Stocked NodeId)) : entriesOf ts = ts.flatMap entries := by
  induction ts with
  | nil => rfl
  | cons t ts ih => simp only [entriesOf, ih, List.flatMap_cons]

/-- The labels of several stocked trees, one after another. -/
@[simp]
lemma labelsOf_eq_flatMap (ts : List (Stocked ι)) : labelsOf ts = ts.flatMap labels := by
  induction ts with
  | nil => rfl
  | cons t ts ih => simp only [labelsOf, ih, List.flatMap_cons]

/-- Several stocked trees without their labels, one by one. -/
@[simp]
lemma bareAll_eq_map (ts : List (Stocked ι)) : bareAll ts = ts.map bare := by
  induction ts with
  | nil => rfl
  | cons t ts ih => simp only [bareAll, ih, List.map_cons]

/-- Several trees with nothing in stock, one by one. -/
@[simp]
lemma ofTrees_eq_map (ts : List (Tree ι)) : ofTrees ts = ts.map ofTree := by
  induction ts with
  | nil => rfl
  | cons t ts ih => simp only [ofTrees, ih, List.map_cons]

/-- Several trees with other labels, one by one. -/
lemma relabelAll_eq_map (f : ι → κ) (ts : List (Tree ι)) :
    Tree.relabelAll f ts = ts.map (Tree.relabel f) := by
  induction ts with
  | nil => rfl
  | cons t ts ih => simp only [Tree.relabelAll, ih, List.map_cons]

/-- An induction over a tree that gives the property for every template and every child. -/
@[elab_as_elim]
lemma induct {motive : Stocked ι → Prop}
    (element : ∀ label head stock children, (∀ t ∈ stock, motive t) →
      (∀ t ∈ children, motive t) → motive (.element label head stock children))
    (text : ∀ label content, motive (.text label content)) (t : Stocked ι) : motive t :=
  @Stocked.rec ι motive (fun ts => ∀ t ∈ ts, motive t)
    (fun label head stock children hs hc => element label head stock children hs hc) text
    (fun _ h => nomatch h)
    (fun _ _ ht hts _ h => (List.mem_cons.1 h).elim (fun e => e ▸ ht) (hts _)) t

/-- A tree without labels is as it was after its labels are dropped. -/
lemma bare_unit (t : Tree Unit) : t.bare = t := by
  induction t using Tree.induct with
  | element label tag attrs hidden children ih =>
    simp only [Tree.bare, Tree.relabel, relabelAll_eq_map, Tree.element.injEq, true_and]
    exact (List.map_congr_left ih).trans (List.map_id _)
  | text label content => rfl

/-- Trees without labels are as they are when their labels are taken away. -/
lemma relabelAll_unit (ts : List (Tree Unit)) : Tree.relabelAll (fun _ => ()) ts = ts := by
  rw [relabelAll_eq_map]
  exact (List.map_congr_left fun t _ => bare_unit t).trans (List.map_id _)

/-! ## Elements -/

variable {label : ι} {n : NodeId} {head : Head} {stock children : List (Stocked ι)}

/-- The tree of an element is the element with the trees of its children, without its stock. -/
@[simp]
lemma tree_element : (element label head stock children).tree =
    .element label head.tag head.attrs head.hidden (children.map tree) := by
  simp only [tree, trees_eq_map]

/-- The templates of an element are trees of their own, and so are those of its templates and
children. -/
@[simp]
lemma roots_element : (element label head stock children).roots =
    stock.map tree ++ stock.flatMap roots ++ children.flatMap roots := by
  simp only [roots, trees_eq_map, rootsOf_eq_flatMap]

/-- An element has an entry for its stock, and its templates and children have theirs. -/
@[simp]
lemma entries_element {stock children : List (Stocked NodeId)} :
    (element n head stock children).entries =
      ownEntries n stock ++ stock.flatMap entries ++ children.flatMap entries := by
  simp only [entries, entriesOf_eq_flatMap]

/-- The labels of an element are its own, those in its stock and those below it. -/
@[simp]
lemma labels_element : (element label head stock children).labels =
    label :: (stock.flatMap labels ++ children.flatMap labels) := by
  simp only [labels, labelsOf_eq_flatMap]

/-- The labels of an element are taken away from its stock and its children as well. -/
@[simp]
lemma bare_element : (element label head stock children).bare =
    element () head (stock.map bare) (children.map bare) := by
  simp only [bare, bareAll_eq_map]

/-- An element of a tree with nothing in stock, and nothing in the stock of what is below it. -/
@[simp]
lemma ofTree_element {tag : String} {attrs : List (String × String)} {hidden : Bool}
    {children : List (Tree ι)} : ofTree (.element label tag attrs hidden children) =
      element label ⟨tag, attrs, hidden⟩ [] (children.map ofTree) := by
  simp only [ofTree, ofTrees_eq_map]

/-- The tree of a stocked tree has its label. -/
@[simp]
lemma label_tree (t : Stocked ι) : t.tree.label = t.label := by
  cases t <;> rfl

/-- The tree of a stocked tree is of its kind. -/
@[simp]
lemma isElement_tree (t : Stocked ι) : t.tree.isElement = t.isElement := by
  cases t <;> rfl

/-- A stocked tree without its labels is of the kind that it was. -/
@[simp]
lemma isElement_bare (t : Stocked ι) : t.bare.isElement = t.isElement := by
  cases t <;> rfl

/-! ## Dropping labels and stock -/

/-- Labels and stock are dropped in any order. -/
lemma tree_bare (t : Stocked ι) : t.bare.tree = t.tree.bare := by
  induction t using induct with
  | element label head stock children _ ih =>
    simp only [bare_element, tree_element, Tree.bare, Tree.relabel, relabelAll_eq_map,
      List.map_map, Tree.element.injEq, true_and]
    exact List.map_congr_left ih
  | text label content => rfl

/-- A tree with nothing in stock has the tree itself as its tree. -/
@[simp]
lemma tree_ofTree (t : Tree ι) : (ofTree t).tree = t := by
  induction t using Tree.induct with
  | element label tag attrs hidden children ih =>
    simp only [ofTree_element, tree_element, List.map_map, Tree.element.injEq, true_and]
    exact (List.map_congr_left ih).trans (List.map_id _)
  | text label content => rfl

/-- A tree with nothing in stock has no templates. -/
@[simp]
lemma roots_ofTree (t : Tree ι) : (ofTree t).roots = [] := by
  induction t using Tree.induct with
  | element label tag attrs hidden children ih =>
    simpa only [ofTree_element, roots_element, List.map_nil, List.flatMap_nil, List.nil_append,
      List.flatMap_map, List.flatMap_eq_nil_iff] using ih
  | text label content => rfl

/-- A tree with nothing in stock has no entries. -/
@[simp]
lemma entries_ofTree (t : Tree NodeId) : (ofTree t).entries = [] := by
  induction t using Tree.induct with
  | element label tag attrs hidden children ih =>
    simpa only [ofTree_element, entries_element, ownEntries, storedOf, Option.toList_none,
      List.map_nil, List.flatMap_nil, List.nil_append, List.flatMap_map,
      List.flatMap_eq_nil_iff] using ih
  | text label content => rfl

/-- Trees with nothing in stock have the trees themselves as their trees. -/
@[simp]
lemma map_tree_ofTree (ts : List (Tree ι)) : (ts.map ofTree).map tree = ts := by
  simp [Function.comp_def]

/-- Trees with nothing in stock have no templates. -/
@[simp]
lemma roots_ofTrees (ts : List (Tree ι)) : (ts.map ofTree).flatMap roots = [] := by
  simp [List.flatMap_map]

/-- Trees with nothing in stock have no entries. -/
@[simp]
lemma entries_ofTrees (ts : List (Tree NodeId)) : (ts.map ofTree).flatMap entries = [] := by
  simp [List.flatMap_map]

/-- It does not matter whether the labels are taken away before or after the stock is given. -/
lemma bare_ofTree (t : Tree ι) : (ofTree t).bare = ofTree t.bare := by
  induction t using Tree.induct with
  | element label tag attrs hidden children ih =>
    simp only [ofTree_element, bare_element, Tree.bare, Tree.relabel, relabelAll_eq_map,
      List.map_map, List.map_nil, element.injEq, true_and]
    exact List.map_congr_left ih
  | text label content => rfl

/-! ## Copies -/

/-- A copy has the tree of what was copied. -/
@[simp]
lemma tree_copy (t : Stocked ι) : t.copy.tree = t.tree :=
  tree_ofTree t.tree

/-- A copy is of the kind of what was copied. -/
@[simp]
lemma isElement_copy (t : Stocked ι) : t.copy.isElement = t.isElement := by
  cases t with
  | element => simp [copy, isElement]
  | text => rfl

/-- Copies have the trees of what was copied. -/
@[simp]
lemma map_tree_copy (ts : List (Stocked ι)) : (ts.map copy).map tree = ts.map tree := by
  simp only [List.map_map]
  exact List.map_congr_left fun t _ => tree_copy t

/-- Copies have no templates. -/
@[simp]
lemma roots_copies (ts : List (Stocked ι)) : (ts.map copy).flatMap roots = [] := by
  simp [copy, List.flatMap_map]

/-- Copies have no entries. -/
@[simp]
lemma entries_copies (ts : List (Stocked NodeId)) : (ts.map copy).flatMap entries = [] := by
  simp [copy, List.flatMap_map]

/-! ## Labels -/

/-- Trees whose labels are those of the tree and of the templates have this property together. -/
lemma labels_perm_of {ts : List (Stocked NodeId)}
    (h : ∀ t ∈ ts, t.labels.Perm (t.tree.released ++ Tree.releasedOf t.roots)) :
    (ts.flatMap labels).Perm
      (Tree.releasedOf (ts.map tree) ++ Tree.releasedOf (ts.flatMap roots)) := by
  induction ts with
  | nil => exact .refl _
  | cons t ts ih =>
    have ht := h t List.mem_cons_self
    have hrest := ih fun u hu => h u (List.mem_cons_of_mem _ hu)
    refine List.perm_iff_count.2 fun n => ?_
    simp only [List.flatMap_cons, List.map_cons, Tree.releasedOf_cons, Tree.releasedOf_append,
      List.count_append, ht.count_eq, hrest.count_eq]
    omega

/-- The labels of a stocked tree are those of its tree and of its templates. -/
lemma labels_perm (t : Stocked NodeId) :
    t.labels.Perm (t.tree.released ++ Tree.releasedOf t.roots) := by
  induction t using induct with
  | element label head stock children hstock hchildren =>
    refine List.perm_iff_count.2 fun n => ?_
    simp only [labels_element, tree_element, roots_element, Tree.released_element,
      Tree.releasedOf_append, List.count_append, List.count_cons, List.count_nil,
      (labels_perm_of hstock).count_eq, (labels_perm_of hchildren).count_eq]
    omega
  | text label content => exact .refl _

/-- The labels of several stocked trees are those of their trees and of their templates. -/
lemma labelsOf_perm (ts : List (Stocked NodeId)) : (ts.flatMap labels).Perm
    (Tree.releasedOf (ts.map tree) ++ Tree.releasedOf (ts.flatMap roots)) :=
  labels_perm_of fun t _ => t.labels_perm

/-- If the entries of each of several stocked trees belong to its labels, so do those of all to the
labels of all. -/
lemma keys_sublist_labels_of {ts : List (Stocked NodeId)}
    (h : ∀ t ∈ ts, (t.entries.map Prod.fst).Sublist t.labels) :
    ((ts.flatMap entries).map Prod.fst).Sublist (ts.flatMap labels) := by
  induction ts with
  | nil => exact .slnil
  | cons t ts ih =>
    rw [List.flatMap_cons, List.flatMap_cons, List.map_append]
    exact (h t List.mem_cons_self).append (ih fun u hu => h u (List.mem_cons_of_mem _ hu))

/-- Every element has at most one entry, under its own label. -/
lemma keys_sublist_labels (t : Stocked NodeId) : (t.entries.map Prod.fst).Sublist t.labels := by
  induction t using induct with
  | element n head stock children hstock hchildren =>
    have hown : ((ownEntries n stock).map Prod.fst).Sublist [n] := by
      unfold ownEntries
      cases storedOf stock with
      | none => exact List.nil_sublist _
      | some stored => exact List.Sublist.refl _
    rw [entries_element, labels_element, List.map_append, List.map_append, List.append_assoc]
    exact hown.append
      ((keys_sublist_labels_of hstock).append (keys_sublist_labels_of hchildren))
  | text label content => exact List.nil_sublist _

/-- The entries of several stocked trees belong to elements of these, each to one of its own. -/
lemma keysOf_sublist_labels (ts : List (Stocked NodeId)) :
    ((ts.flatMap entries).map Prod.fst).Sublist (ts.flatMap labels) :=
  keys_sublist_labels_of fun t _ => t.keys_sublist_labels

/-- A node has at most one entry of those of the given trees. -/
lemma count_keysOf_le (n : NodeId) (ts : List (Stocked NodeId)) :
    ((ts.flatMap entries).map Prod.fst).count n ≤ (ts.flatMap labels).count n :=
  (keysOf_sublist_labels ts).count_le n

/-- The entry for the stock of an element belongs to the element, and there is at most one. -/
lemma count_ownKeys_le (n m : NodeId) (stock : List (Stocked NodeId)) :
    ((ownEntries m stock).map Prod.fst).count n ≤ [m].count n := by
  unfold ownEntries
  cases storedOf stock with
  | none => exact Nat.zero_le _
  | some stored => exact Nat.le_refl _

end Stocked

end TreeTemplate
