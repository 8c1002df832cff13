import TreeTemplate.Document.Basic
import TreeTemplate.Proofs.Forest.Context

/-!
# Elements without what is below them

The shell of an element is the element without what is below it: its identity, its tag, its
attributes, and whether it is hidden. An operation that only moves nodes, takes them away or puts
texts in their place leaves no other shells than those that were there, in any forest whatever.

Main statements:

* `shells_plug`, `shells_takeIn?` — a node that is changed, and one that is taken out;
* `Document.shells_update?`, `Document.shells_detach?`, `Document.shells_remove?`,
  `Document.shells_removeChildrenWhere?`, `Document.shells_setText?` — operations of a document.
-/

namespace TreeTemplate

namespace Tree

variable {n : NodeId} {f : Tree NodeId → Tree NodeId} {t u taken left : Tree NodeId}
  {ts us rest : List (Tree NodeId)}

/-- The elements of some trees, each without what is below it. -/
def shells (ts : List (Tree NodeId)) : List (Tree NodeId) :=
  ((nodesOf ts).filter isElement).map (·.setChildren [])

/-- No trees have no shells. -/
@[simp]
lemma shells_nil : shells [] = [] := rfl

/-- The shells of an element are its own and those below it. -/
@[simp]
lemma shells_element (m : NodeId) (tag : String) (attrs : List (String × String)) (hidden : Bool)
    (children ts : List (Tree NodeId)) : shells (element m tag attrs hidden children :: ts) =
      element m tag attrs hidden [] :: (shells children ++ shells ts) := by
  simp only [shells, nodesOf, nodes, List.cons_append, List.filter_append, List.map_append,
    List.filter_cons_of_pos (show (element m tag attrs hidden children).isElement = true from rfl),
    List.map_cons]
  rfl

/-- A text has no shell. -/
@[simp]
lemma shells_text (m : NodeId) (content : String) (ts : List (Tree NodeId)) :
    shells (text m content :: ts) = shells ts := by
  simp [shells, nodesOf, nodes, isElement]

/-- The shells of several trees are those of the first and those of the others. -/
lemma shells_cons (t : Tree NodeId) (ts : List (Tree NodeId)) :
    shells (t :: ts) = shells [t] ++ shells ts := by
  cases t <;> simp

/-- The shells of several trees are those of the first ones and those of the others. -/
lemma shells_append (ts us : List (Tree NodeId)) : shells (ts ++ us) = shells ts ++ shells us := by
  induction ts with
  | nil => rfl
  | cons t ts ih => rw [List.cons_append, shells_cons, ih, ← List.append_assoc, ← shells_cons]

/-- Fewer trees have no other shells. -/
lemma shells_subset (h : ts ⊆ us) : shells ts ⊆ shells us := by
  induction ts with
  | nil => exact List.nil_subset _
  | cons t ts ih =>
    rw [shells_cons]
    refine List.append_subset.2 ⟨?_, ih fun u hu => h (List.mem_cons_of_mem t hu)⟩
    obtain ⟨before, after, rfl⟩ := List.append_of_mem (h List.mem_cons_self)
    rw [shells_append, shells_cons t after]
    exact fun u hu => List.mem_append_right _ (List.mem_append_left _ hu)

/-- Where some of what is below a node is left, the shells are some of those that were there. -/
lemma shells_setChildren (h : shells us ⊆ shells t.children) :
    shells [t.setChildren us] ⊆ shells [t] := by
  cases t with
  | element m tag attrs hidden children =>
    have h : shells us ⊆ shells children := h
    simpa [setChildren] using List.cons_subset_cons _ h
  | text m content => exact List.nil_subset _

/-! ## Changing a node -/

/-- What brings no other shells to a hole brings none to what is around it. -/
lemma shells_plug (C : Context) (h : shells [t] ⊆ shells [u]) :
    shells [C.plug t] ⊆ shells [C.plug u] := by
  induction C generalizing t u with
  | top => exact h
  | inside outer m tag attrs hidden before after ih =>
    have hall : shells (before ++ t :: after) ⊆ shells (before ++ u :: after) := by
      intro v hv
      simp only [shells_append, shells_cons t after, shells_cons u after, List.mem_append] at hv ⊢
      exact hv.imp_right fun hv => hv.imp_left fun hv => h hv
    exact ih (shells_setChildren (t := .element m tag attrs hidden (before ++ u :: after)) hall)

/-! ## Taking a node out -/

mutual

/-- A node that is taken out and what is left have shells that were there. -/
lemma shells_takeBelow? {t taken left : Tree NodeId} (h : t.takeBelow? n = some (taken, left)) :
    shells [taken, left] ⊆ shells [t] := by
  cases t with
  | element m tag attrs hidden children =>
    obtain ⟨⟨found, rest⟩, htake, e⟩ := Option.map_eq_some_iff.1 h
    cases e
    have hsub := shells_takeIn? htake
    rw [shells_cons] at hsub ⊢
    obtain ⟨hfound, hrest⟩ := List.append_subset.1 hsub
    simp only [shells_element, shells_nil, List.append_nil]
    exact List.append_subset.2 ⟨fun v hv => List.mem_cons_of_mem _ (hfound hv),
      List.cons_subset_cons _ hrest⟩
  | text m content => cases h

/-- A node that is taken out and what is left have the shells that were there. -/
lemma shells_takeIn? {ts rest : List (Tree NodeId)} {taken : Tree NodeId}
    (h : takeIn? n ts = some (taken, rest)) : shells (taken :: rest) ⊆ shells ts := by
  cases ts with
  | nil => cases h
  | cons t ts =>
    rw [takeIn?] at h
    split at h
    · rename_i found rest' htake
      cases h
      have hsub := shells_takeIn? htake
      rw [shells_cons] at hsub
      obtain ⟨hfound, hrest⟩ := List.append_subset.1 hsub
      rw [shells_cons taken, shells_cons t rest', shells_cons t ts]
      refine List.append_subset.2 ⟨fun v hv => List.mem_append_right _ (hfound hv), ?_⟩
      exact List.append_subset.2 ⟨List.subset_append_left _ _,
        fun v hv => List.mem_append_right _ (hrest hv)⟩
    · split at h
      · cases h
        exact List.Subset.refl _
      · obtain ⟨⟨found, left⟩, htake, e⟩ := Option.map_eq_some_iff.1 h
        cases e
        have hsub := shells_takeBelow? htake
        rw [shells_cons] at hsub
        obtain ⟨hfound, hleft⟩ := List.append_subset.1 hsub
        rw [shells_cons taken, shells_cons left ts, shells_cons t ts]
        refine List.append_subset.2 ⟨fun v hv => List.mem_append_left _ (hfound hv), ?_⟩
        exact List.append_subset.2 ⟨fun v hv => List.mem_append_left _ (hleft hv),
          List.subset_append_right _ _⟩

end

end Tree

namespace Document

open TreeTemplate.Tree (shells)

variable {d d' : Document} {n : NodeId}

/-- Taking a node out leaves the shells that were there. -/
lemma shells_detach? (h : d.detach? n = some d') : shells d'.trees ⊆ shells d.trees := by
  obtain ⟨⟨taken, rest⟩, htake, rfl⟩ := Option.map_eq_some_iff.1 h
  refine List.Subset.trans ?_ (Tree.shells_takeIn? htake)
  exact Tree.shells_subset fun t ht => List.perm_append_singleton _ _ |>.subset ht

/-- Removing a node leaves shells that were there. -/
lemma shells_remove? (h : d.remove? n = some d') : shells d'.trees ⊆ shells d.trees := by
  obtain ⟨⟨taken, rest⟩, htake, rfl⟩ := Option.map_eq_some_iff.1 h
  exact List.Subset.trans (Tree.shells_subset (List.subset_cons_self _ _))
    (Tree.shells_takeIn? htake)

/-- A change that brings no other shells to the node that is found brings none to the document. -/
lemma shells_update? {f : Tree NodeId → Tree NodeId} (h : d.update? n f = some d')
    (hf : ∀ t, d.find? n = some t → shells [f t] ⊆ shells [t]) :
    shells d'.trees ⊆ shells d.trees := by
  cases hn : d.find? n with
  | none =>
    rw [update?, Tree.updateIn?_of_findIn? hn] at h
    cases h
  | some t =>
    obtain ⟨before, C, after, hshows, e⟩ := Tree.exists_shows_of_findIn? hn
    rw [update?, e, (hshows t (Tree.findIn?_label hn)).2 f] at h
    cases h
    intro v hv
    simp only [e, Tree.shells_append, Tree.shells_cons (C.plug _) after, List.mem_append] at hv ⊢
    exact hv.imp_right fun hv => hv.imp_left fun hv => Tree.shells_plug C (hf t hn) hv

/-- Removing nodes directly below a node leaves shells that were there. -/
lemma shells_removeChildrenWhere? {test : Tree NodeId → Bool}
    (h : d.removeChildrenWhere? n test = some d') : shells d'.trees ⊆ shells d.trees := by
  simp only [removeChildrenWhere?, Option.bind_eq_bind, Option.bind_eq_some_iff,
    List.partition_eq_filter_filter] at h
  obtain ⟨t, ht, updated, hupdate, e⟩ := h
  have hupdated : shells updated.trees ⊆ shells d.trees := by
    refine shells_update? hupdate fun u hu => ?_
    rw [ht] at hu
    cases hu
    exact Tree.shells_setChildren (Tree.shells_subset (List.filter_sublist.subset))
  cases e
  exact hupdated

/-- Putting a text below a node leaves shells that were there. -/
lemma shells_setText? {content : String} (h : d.setText? n content = some d') :
    shells d'.trees ⊆ shells d.trees := by
  simp only [setText?, replaceChildren?, Option.bind_eq_bind, Option.bind_eq_some_iff] at h
  obtain ⟨t, ht, h⟩ := h
  split at h
  · obtain ⟨updated, hupdate, e⟩ := Option.bind_eq_some_iff.1 h
    have hupdated : shells updated.trees ⊆ shells d.trees :=
      shells_update? hupdate fun u _ => Tree.shells_setChildren
        (by simp [Supply.plantAll, Supply.plant])
    cases e
    exact hupdated
  · cases h

end Document

end TreeTemplate
