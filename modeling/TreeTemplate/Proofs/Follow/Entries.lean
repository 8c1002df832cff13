import TreeTemplate.Proofs.Attributes.Declared
import TreeTemplate.Proofs.Follow.Template
import TreeTemplate.Proofs.Stocked.Spots

/-!
# The entries of a stocked tree

What can be told of a stocked tree from the entries of its stash and from the trees beside it. Its
templates are those that the entries name, its elements with an entry are nodes of these trees, and
when none of the templates has an entry of its own nothing was taken out of a template itself.

Main statements:

* `labels_roots` — the trees beside the tree are those of the templates;
* `exists_of_mem_entries` — the elements with an entry;
* `tidy_of_unkeyed`, `unjumped_of_entered` — what makes a tree one that a walk can enter.
-/

namespace TreeTemplate

open Stocked (ownEntries storedOf)

namespace Tree

variable {ι : Type}

mutual

/-- The nodes of a tree that a walk can enter. Markup that an element is filled with is not
entered. -/
def entered (d : Dialect) : Tree ι → List (Tree ι)
  | element label tag attrs hidden children =>
    element label tag attrs hidden children ::
      if Stocked.holdsMarkup d ⟨tag, attrs, hidden⟩ then [] else enteredOf d children
  | text label content => [text label content]

/-- The nodes of several trees that a walk can enter. -/
def enteredOf (d : Dialect) : List (Tree ι) → List (Tree ι)
  | [] => []
  | t :: ts => t.entered d ++ enteredOf d ts

end

/-- A walk can enter a node of several trees if it can enter it in one of them. -/
lemma mem_enteredOf {d : Dialect} {u : Tree ι} {ts : List (Tree ι)} :
    u ∈ enteredOf d ts ↔ ∃ t ∈ ts, u ∈ t.entered d := by
  induction ts with
  | nil => simp [enteredOf]
  | cons t ts ih => simp [enteredOf, ih]

end Tree

namespace Stocked

variable {n : NodeId} {head : Head} {stock : List (Stocked NodeId)} {t : Stocked NodeId}
  {entry : NodeId × Stored} {d : Dialect}

/-- Stock that fits is stashed. -/
lemma exists_storedOf (h : stock.length ≤ 2) (hne : stock ≠ []) : ∃ stored,
    storedOf stock = some stored ∧ stored.templates = stock.map label := by
  match stock with
  | [] => exact absurd rfl hne
  | [template] => exact ⟨.item template.label, rfl, rfl⟩
  | [key, value] => exact ⟨.entry key.label value.label, rfl, rfl⟩
  | _ :: _ :: _ :: _ => simp at h

/-- The templates in the entry of an element are those in its stock. -/
lemma templates_ownEntries (h : stock.length ≤ 2) (n : NodeId) :
    (ownEntries n stock).flatMap (fun entry => entry.2.templates) = stock.map label := by
  by_cases hne : stock = []
  · subst hne
    rfl
  · obtain ⟨stored, hstored, htemplates⟩ := exists_storedOf h hne
    rw [← htemplates]
    simp [ownEntries, hstored]

/-- The templates of several trees are those in their entries, if those of each are. -/
lemma labels_roots_of {ts : List (Stocked NodeId)}
    (h : ∀ t ∈ ts, t.roots.map Tree.label = t.entries.flatMap fun entry => entry.2.templates) :
    (ts.flatMap roots).map Tree.label =
      (ts.flatMap entries).flatMap fun entry => entry.2.templates := by
  rw [List.map_flatMap, List.flatMap_assoc]
  exact List.flatMap_congr h

/-- The trees beside a stocked tree are those of the templates in its entries. -/
lemma labels_roots (h : t.Fit) :
    t.roots.map Tree.label = t.entries.flatMap fun entry => entry.2.templates := by
  induction t using induct with
  | text label content => rfl
  | element n head stock children hstock hchildren =>
    obtain ⟨hfew, hfits, hfitc⟩ := fit_element.1 h
    have hown : (stock.map tree).map Tree.label = stock.map label := by
      rw [List.map_map]
      exact List.map_congr_left fun t _ => label_tree t
    rw [roots_element, entries_element, List.map_append, List.map_append, List.flatMap_append,
      List.flatMap_append, hown, templates_ownEntries hfew,
      labels_roots_of fun t ht => hstock t ht (hfits t ht).2,
      labels_roots_of fun t ht => hchildren t ht (hfitc t ht)]

/-- Every entry is one of an element of the tree or of a template. -/
lemma exists_of_mem_entries (h : entry ∈ t.entries) :
    ∃ u ∈ Tree.nodesOf (t.tree :: t.roots), u.isElement = true ∧ u.label = entry.1 := by
  induction t using induct with
  | text label content => cases h
  | element n head stock children hstock hchildren =>
    simp only [Tree.mem_nodesOf, List.mem_cons, tree_element, roots_element] at hstock hchildren ⊢
    rw [entries_element, List.mem_append, List.mem_append] at h
    rcases h with (hown | hs) | hc
    · obtain ⟨stored, -, rfl⟩ := List.mem_map.1 hown
      exact ⟨_, ⟨_, .inl rfl, Tree.self_mem_nodes _⟩, rfl, rfl⟩
    · obtain ⟨s, hs, hentry⟩ := List.mem_flatMap.1 hs
      obtain ⟨u, ⟨r, hr, hu⟩, hu'⟩ := hstock s hs hentry
      refine ⟨u, ⟨r, .inr (List.mem_append_left _ (List.mem_append.2 ?_)), hu⟩, hu'⟩
      rcases hr with rfl | hr
      · exact .inl (List.mem_map_of_mem hs)
      · exact .inr (List.mem_flatMap.2 ⟨s, hs, hr⟩)
    · obtain ⟨c, hc, hentry⟩ := List.mem_flatMap.1 hc
      obtain ⟨u, ⟨r, hr, hu⟩, hu'⟩ := hchildren c hc hentry
      rcases hr with rfl | hr
      · refine ⟨u, ⟨_, .inl rfl, List.mem_cons_of_mem _ ?_⟩, hu'⟩
        exact Tree.mem_nodesOf.2 ⟨c.tree, List.mem_map_of_mem hc, hu⟩
      · exact ⟨u, ⟨r, .inr (List.mem_append_right _ (List.mem_flatMap.2 ⟨c, hc, hr⟩)), hu⟩, hu'⟩

/-- Where no template has an entry of its own nothing was taken out of a template itself. -/
lemma tidy_of_unkeyed {entries : List (NodeId × Stored)} (hfit : t.Fit) (hsub : t.entries ⊆ entries)
    (h : ∀ entry ∈ entries, ∀ m ∈ entry.2.templates, m ∉ entries.map Prod.fst) : t.Tidy := by
  induction t using induct with
  | text label content => trivial
  | element n head stock children hstock hchildren =>
    obtain ⟨hfew, hfits, hfitc⟩ := fit_element.1 hfit
    rw [entries_element, List.append_subset, List.append_subset] at hsub
    obtain ⟨⟨hown, hsubs⟩, hsubc⟩ := hsub
    have hin {ts : List (Stocked NodeId)} (hts : ts.flatMap Stocked.entries ⊆ entries)
        {u : Stocked NodeId} (hu : u ∈ ts) : u.entries ⊆ entries :=
      fun _ hm => hts (List.mem_flatMap.2 ⟨u, hu, hm⟩)
    refine tidy_element.2 ⟨fun u hu => ⟨?_, hstock u hu (hfits u hu).2 (hin hsubs hu)⟩,
      fun u hu => hchildren u hu (hfitc u hu) (hin hsubc hu)⟩
    by_contra hne
    obtain ⟨stored, hstored, htemplates⟩ := exists_storedOf hfew (List.ne_nil_of_mem hu)
    have hentry : (n, stored) ∈ entries := hown (by simp [ownEntries, hstored])
    refine h _ hentry u.label (htemplates ▸ List.mem_map_of_mem hu) ?_
    -- stock of the template is stashed under the name of the template
    cases u with
    | text label content => exact absurd rfl hne
    | element m head' stock' children' =>
      obtain ⟨stored', hstored', -⟩ := exists_storedOf (fit_element.1 (hfits _ hu).2).1 hne
      refine List.mem_map.2 ⟨(m, stored'), hin hsubs hu ?_, rfl⟩
      rw [entries_element]
      simp [ownEntries, hstored']

/-- A tree is left by no jump when none of its nodes and of its templates that a walk can enter
is. -/
lemma unjumped_of_entered (h : ∀ u ∈ t.tree.entered d, u.head.JumpFree d)
    (hroots : ∀ r ∈ t.roots, ∀ u ∈ r.entered d, u.head.JumpFree d) : t.Unjumped d := by
  induction t using induct with
  | text label content => trivial
  | element n head stock children hstock hchildren =>
    rw [tree_element, Tree.entered] at h
    rw [roots_element] at hroots
    refine allBut_element.2 ⟨h _ List.mem_cons_self, fun s hs => ?_, fun hskip c hc => ?_⟩
    · refine hstock s hs (hroots _ ?_) fun r hr => hroots r ?_
      · exact List.mem_append_left _ (List.mem_append_left _ (List.mem_map_of_mem hs))
      · exact List.mem_append_left _ (List.mem_append_right _ (List.mem_flatMap.2 ⟨s, hs, hr⟩))
    · refine hchildren c hc (fun u hu => h u (List.mem_cons_of_mem _ ?_)) fun r hr => hroots r ?_
      · rw [if_neg (by simpa using hskip)]
        exact Tree.mem_enteredOf.2 ⟨c.tree, List.mem_map_of_mem hc, hu⟩
      · exact List.mem_append_right _ (List.mem_flatMap.2 ⟨c, hc, hr⟩)

/-- The templates in a part of a tree are templates of the tree. -/
lemma roots_subset_of_at? {p : List Nat} {x : Stocked NodeId} (h : at? p t = some x) :
    x.roots ⊆ t.roots := by
  induction p generalizing t with
  | nil =>
    obtain rfl := Option.some.inj h
    exact List.Subset.refl _
  | cons i p ih =>
    obtain ⟨c, hc, hbelow⟩ := Option.bind_eq_some_iff.1 h
    cases t with
    | text => simp [children] at hc
    | element label head stock children =>
      rw [roots_element]
      exact fun r hr => List.mem_append_right _
        (List.mem_flatMap.2 ⟨c, List.mem_of_getElem? hc, ih hbelow hr⟩)

end Stocked

end TreeTemplate
