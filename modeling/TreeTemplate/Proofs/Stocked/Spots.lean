import TreeTemplate.Proofs.Stocked.Element
import TreeTemplate.Proofs.Forest.Nodes

/-!
# Spots of a stocked tree

A spot says which way to go from the top of a tree: which child to take, which child of that, and so
on. What is at one spot can be replaced, and that does nothing to a spot that is neither above nor
below it.

Main statements:

* `at?_put_of_disjoint`, `put_comm` — different parts of a tree;
* `at?_bare`, `put_bare` — labels do not count;
* `exists_at?_of_mem_nodes` — every node of the tree is at a spot.
-/

namespace TreeTemplate.Stocked

variable {ι : Type} {t u v x : Stocked ι} {p q : List Nat} {i j : Nat}

/-- The nodes directly below a node. -/
def children : Stocked ι → List (Stocked ι)
  | element _ _ _ children => children
  | text _ _ => []

/-- A node with other nodes directly below it; texts have none. -/
def setChildren (children : List (Stocked ι)) : Stocked ι → Stocked ι
  | element label head stock _ => element label head stock children
  | text label content => text label content

/-- What is at a spot. -/
def at? : List Nat → Stocked ι → Option (Stocked ι)
  | [], t => some t
  | i :: p, t => t.children[i]?.bind (at? p)

/-- A tree with something else at a spot. -/
def put (u : Stocked ι) : List Nat → Stocked ι → Stocked ι
  | [], _ => u
  | i :: p, t => t.setChildren (t.children.modify i (put u p))

/-- What is put at a spot below an element is put there below one of its children. -/
lemma children_put_cons (u : Stocked ι) (i : Nat) (p : List Nat) (t : Stocked ι) :
    (put u (i :: p) t).children = t.children.modify i (put u p) := by
  cases t with
  | element => rfl
  | text => simp [put, setChildren, children]

/-- The top of a tree stays when something below it is replaced. -/
lemma label_put_cons (u : Stocked ι) (i : Nat) (p : List Nat) (t : Stocked ι) :
    (put u (i :: p) t).label = t.label := by
  cases t <;> rfl

/-- An element that is given its own children is as it was. -/
lemma setChildren_children (t : Stocked ι) : t.setChildren t.children = t := by
  cases t <;> rfl

/-- What is at a spot may be put there. -/
lemma put_at? (h : at? p t = some x) : put x p t = t := by
  induction p generalizing t with
  | nil => exact (Option.some.inj h).symm
  | cons i p ih =>
    obtain ⟨c, hc, hx⟩ := Option.bind_eq_some_iff.1 h
    refine (congrArg (fun ts => t.setChildren ts) ?_).trans t.setChildren_children
    refine List.ext_getElem? fun j => ?_
    by_cases hj : i = j
    · simp [← hj, hc, ih hx]
    · simp [hj]

/-- What was put at a spot is there. -/
lemma at?_put_self (h : at? p t = some x) : at? p (put u p t) = some u := by
  induction p generalizing t with
  | nil => rfl
  | cons i p ih =>
    obtain ⟨c, hc, hx⟩ := Option.bind_eq_some_iff.1 h
    simp [at?, children_put_cons, hc, ih hx]

/-! ## Disjoint spots -/

/-- What is put at one spot is not seen at another one. -/
lemma at?_put_of_disjoint (h : ¬ p <+: q) (h' : ¬ q <+: p) : at? q (put u p t) = at? q t := by
  induction p generalizing q t with
  | nil => exact absurd List.nil_prefix h
  | cons i p ih =>
    cases q with
    | nil => exact absurd List.nil_prefix h'
    | cons j q =>
      rw [List.cons_prefix_cons, not_and] at h h'
      simp only [at?, children_put_cons, List.getElem?_modify]
      cases hc : t.children[j]? with
      | none => simp
      | some c =>
        by_cases hij : i = j
        · simp only [if_pos hij, Option.map_eq_map, Option.map_some, Option.bind_some]
          exact ih (h hij) (h' hij.symm)
        · simp [hij]

/-- At two spots that are not above one another the order does not count. -/
lemma put_comm (h : ¬ p <+: q) (h' : ¬ q <+: p) :
    put u p (put v q t) = put v q (put u p t) := by
  induction p generalizing q t with
  | nil => exact absurd List.nil_prefix h
  | cons i p ih =>
    cases q with
    | nil => exact absurd List.nil_prefix h'
    | cons j q =>
      rw [List.cons_prefix_cons, not_and] at h h'
      cases t with
      | text label content => simp [put, setChildren]
      | element label head stock children =>
        simp only [put, setChildren, Stocked.children, element.injEq, true_and]
        refine List.ext_getElem? fun k => ?_
        simp only [List.getElem?_modify]
        cases hc : children[k]? with
        | none => simp
        | some c =>
          by_cases hi : i = k <;> by_cases hj : j = k
          · simp only [if_pos hi, if_pos hj, Option.map_eq_map, Option.map_some, Option.some.injEq]
            exact ih (h (hi.trans hj.symm)) (h' (hj.trans hi.symm))
          · simp [hi, hj]
          · simp [hi, hj]
          · simp [hi, hj]

/-! ## Labels -/

/-- What is below an element without labels is what is below it, without labels. -/
lemma children_bare (t : Stocked ι) : t.bare.children = t.children.map bare := by
  cases t with
  | element => simp [children]
  | text => rfl

/-- What is at a spot of a tree without labels is what is there, without labels. -/
lemma at?_bare (p : List Nat) (t : Stocked ι) : at? p t.bare = (at? p t).map bare := by
  induction p generalizing t with
  | nil => rfl
  | cons i p ih =>
    simp only [at?, children_bare, List.getElem?_map]
    cases t.children[i]? with
    | none => rfl
    | some c => exact ih c

/-- It does not matter whether the labels are taken away before or after something is put at a
spot. -/
lemma put_bare (u : Stocked ι) (p : List Nat) (t : Stocked ι) :
    (put u p t).bare = put u.bare p t.bare := by
  induction p generalizing t with
  | nil => rfl
  | cons i p ih =>
    cases t with
    | text => rfl
    | element label head stock children =>
      simp only [put, setChildren, Stocked.children, bare_element, element.injEq, true_and]
      refine List.ext_getElem? fun k => ?_
      simp only [List.getElem?_map, List.getElem?_modify]
      cases children[k]? with
      | none => simp
      | some c =>
        by_cases hi : i = k
        · simp [hi, ih]
        · simp [hi]

/-! ## Spots of nodes -/

/-- Every node of a tree is at a spot. -/
lemma exists_at?_of_mem_nodes {t : Stocked NodeId} {n : Tree NodeId} (h : n ∈ t.tree.nodes) :
    ∃ p x, at? p t = some x ∧ x.tree = n := by
  induction t using induct with
  | text label content =>
    obtain rfl := List.mem_singleton.1 h
    exact ⟨[], _, rfl, rfl⟩
  | element label head stock children _ ih =>
    rw [tree_element] at h
    rcases List.mem_cons.1 h with rfl | h
    · exact ⟨[], _, rfl, tree_element⟩
    obtain ⟨_, hmem, hn⟩ := Tree.mem_nodesOf.1 h
    obtain ⟨c, hc, rfl⟩ := List.mem_map.1 hmem
    obtain ⟨p, x, hx, htree⟩ := ih c hc hn
    obtain ⟨i, hi⟩ := List.getElem?_of_mem hc
    exact ⟨i :: p, x, by simp [at?, Stocked.children, hi, hx], htree⟩

/-- A spot can be gone to in two steps. -/
lemma at?_append (p q : List Nat) (t : Stocked ι) :
    at? (p ++ q) t = (at? p t).bind (at? q) := by
  induction p generalizing t with
  | nil => rfl
  | cons i p ih =>
    simp only [List.cons_append, at?, Option.bind_assoc]
    exact congrArg _ (funext ih)

/-- What is at a spot of a tree is a node of the tree. -/
lemma mem_nodes_of_at? {t x : Stocked NodeId} (h : at? p t = some x) : x.tree ∈ t.tree.nodes := by
  induction p generalizing t with
  | nil =>
    obtain rfl := Option.some.inj h
    exact Tree.self_mem_nodes _
  | cons i p ih =>
    obtain ⟨c, hc, hx⟩ := Option.bind_eq_some_iff.1 h
    cases t with
    | text => simp [children] at hc
    | element label head stock children =>
      rw [tree_element]
      refine List.mem_cons_of_mem _ (Tree.mem_nodesOf.2 ⟨c.tree, ?_, ih hx⟩)
      exact List.mem_map_of_mem (List.mem_of_getElem? hc)

/-- What is at a spot of a tree without any stock is without any stock. -/
lemma exists_ofTree_of_at? {t : Tree ι} (h : at? p (ofTree t) = some x) :
    ∃ u, x = ofTree u := by
  induction p generalizing t with
  | nil => exact ⟨t, (Option.some.inj h).symm⟩
  | cons i p ih =>
    obtain ⟨c, hc, hx⟩ := Option.bind_eq_some_iff.1 h
    cases t with
    | text => simp [ofTree, children] at hc
    | element label tag attrs hidden ts =>
      rw [ofTree_element, children] at hc
      obtain ⟨u, -, rfl⟩ := List.mem_map.1 (List.mem_of_getElem? hc)
      exact ih hx

/-- A property of every element of a tree is one of every element at and below a spot. -/
lemma All.at? {P : Element ι → Prop} (h : t.All P) (hx : at? p t = some x) : x.All P := by
  induction p generalizing t with
  | nil =>
    obtain rfl := Option.some.inj hx
    exact h
  | cons i p ih =>
    obtain ⟨c, hc, hbelow⟩ := Option.bind_eq_some_iff.1 hx
    cases t with
    | text => simp [children] at hc
    | element label head stock children =>
      exact ih ((all_element.1 h).2.2 c (List.mem_of_getElem? hc)) hbelow

end TreeTemplate.Stocked
