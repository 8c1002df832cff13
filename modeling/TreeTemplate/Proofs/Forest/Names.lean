import TreeTemplate.Document.Basic
import TreeTemplate.Proofs.Forest.Context
import TreeTemplate.Proofs.Stocked.Basic

/-!
# Names of attributes

No element has two attributes of one name, and what is done to the attributes of an element keeps
it so.

Main statements:

* `Tree.Distinct.setAttr`, `Tree.Distinct.removeAttr`, `Tree.Distinct.addClass`,
  `Tree.Distinct.removeClass` — changes of an element.
-/

namespace TreeTemplate

namespace Tree

variable {ι κ : Type} {t u : Tree ι} {ts : List (Tree ι)} {attrs : List (String × String)}
  {name value : String}

/-- The nodes of several trees, one tree after another. -/
lemma nodesOf_eq_flatMap (ts : List (Tree ι)) : nodesOf ts = ts.flatMap nodes := by
  induction ts with
  | nil => rfl
  | cons t ts ih => rw [nodesOf, ih, List.flatMap_cons]

/-- Labels do not count for the order of the nodes. -/
lemma nodes_relabel (f : ι → κ) (t : Tree ι) :
    (t.relabel f).nodes = t.nodes.map (relabel f) := by
  induction t using Tree.induct with
  | element label tag attrs hidden children ih =>
    simp only [relabel, Stocked.relabelAll_eq_map, nodes, nodesOf_eq_flatMap, List.map_cons,
      List.map_flatMap, List.flatMap_map, List.cons.injEq, true_and]
    exact List.flatMap_congr ih
  | text label content => rfl

/-- Other labels leave the kind of a node as it is. -/
@[simp]
lemma isElement_relabel (f : ι → κ) (t : Tree ι) : (t.relabel f).isElement = t.isElement := by
  cases t <;> rfl

/-- Other labels leave a node hidden or shown. -/
@[simp]
lemma isHidden_relabel (f : ι → κ) (t : Tree ι) : (t.relabel f).isHidden = t.isHidden := by
  cases t <;> rfl

/-- Other labels leave the attributes as they are. -/
@[simp]
lemma attrs_relabel (f : ι → κ) (t : Tree ι) : (t.relabel f).attrs = t.attrs := by
  cases t <;> rfl

/-- No element of a tree has two attributes of one name. -/
def Distinct (t : Tree ι) : Prop :=
  ∀ u ∈ t.nodes, (u.attrs.map Prod.fst).Nodup

/-- A text has no attributes. -/
@[simp]
lemma distinct_text (label : ι) (content : String) : (text label content).Distinct := by
  simp [Distinct, nodes, Tree.attrs]

/-- The names are different in an element and in everything below it. -/
@[simp]
lemma distinct_element {label : ι} {tag : String} {hidden : Bool} :
    (element label tag attrs hidden ts).Distinct ↔
      (attrs.map Prod.fst).Nodup ∧ ∀ t ∈ ts, t.Distinct := by
  simp only [Distinct, nodes, nodesOf_eq_flatMap, List.mem_cons, List.mem_flatMap, forall_eq_or_imp,
    Tree.attrs]
  exact and_congr_right' ⟨fun h t ht u hu => h u ⟨t, ht, hu⟩, fun h u ⟨t, ht, hu⟩ => h t ht u hu⟩

/-- Labels do not count for the names. -/
lemma distinct_relabel (f : ι → κ) (t : Tree ι) : (t.relabel f).Distinct ↔ t.Distinct := by
  simp [Distinct, nodes_relabel]

namespace Distinct

/-- The names of the attributes at the top of such a tree are different. -/
lemma attrs_nodup (h : t.Distinct) : (t.attrs.map Prod.fst).Nodup := by
  cases t with
  | element => exact (distinct_element.1 h).1
  | text => exact List.nodup_nil

/-- Other children leave the names of an element alone. -/
lemma setChildren (h : t.Distinct) (hts : ∀ u ∈ ts, u.Distinct) : (t.setChildren ts).Distinct := by
  cases t with
  | element => exact distinct_element.2 ⟨(distinct_element.1 h).1, hts⟩
  | text => exact h

/-- Hiding or showing an element leaves its names different. -/
lemma setHidden (h : t.Distinct) (hidden : Bool) : (t.setHidden hidden).Distinct := by
  cases t with
  | element => exact distinct_element.2 (distinct_element.1 h)
  | text => exact h

/-- A change that keeps different names different leaves those of an element different. -/
lemma mapAttrs {f : List (String × String) → List (String × String)}
    (hf : ∀ attrs, (attrs.map Prod.fst).Nodup → ((f attrs).map Prod.fst).Nodup) (h : t.Distinct) :
    (t.mapAttrs f).Distinct := by
  cases t with
  | element => exact distinct_element.2 ((distinct_element.1 h).imp_left (hf _))
  | text => exact h

end Distinct

/-- Replacing an attribute leaves the names alone, or adds the name behind them. -/
lemma names_replaceAttr (name value : String) (attrs : List (String × String)) :
    (replaceAttr name value attrs).map Prod.fst =
      if name ∈ attrs.map Prod.fst then attrs.map Prod.fst else attrs.map Prod.fst ++ [name] := by
  induction attrs with
  | nil => rfl
  | cons attr attrs ih =>
    by_cases he : attr.1 = name
    · simp [replaceAttr, he]
    · rw [replaceAttr, if_neg he, List.map_cons, ih]
      by_cases hmem : name ∈ attrs.map Prod.fst
      · rw [if_pos hmem, List.map_cons, if_pos (List.mem_cons_of_mem _ hmem)]
      · rw [if_neg hmem, List.map_cons, if_neg (List.mem_cons.not.2 (not_or.2 ⟨Ne.symm he, hmem⟩)),
          List.cons_append]

/-- An attribute that gets another value keeps its name. -/
lemma nodup_replaceAttr (h : (attrs.map Prod.fst).Nodup) (name value : String) :
    ((replaceAttr name value attrs).map Prod.fst).Nodup := by
  rw [names_replaceAttr]
  split
  · exact h
  · rename_i hname
    exact List.nodup_append.2 ⟨h, by simp, fun a ha b hb e =>
      hname (List.mem_singleton.1 hb ▸ e ▸ ha)⟩

namespace Distinct

/-- Setting an attribute leaves different names. -/
lemma setAttr (h : t.Distinct) (name value : String) : (t.setAttr name value).Distinct :=
  h.mapAttrs fun _ hattrs => nodup_replaceAttr hattrs name value

/-- Removing an attribute leaves different names. -/
lemma removeAttr (h : t.Distinct) (name : String) : (t.removeAttr name).Distinct :=
  h.mapAttrs fun _ hattrs => hattrs.sublist (List.filter_sublist.map _)

/-- Adding a class leaves different names. -/
lemma addClass (h : t.Distinct) (name : String) : (t.addClass name).Distinct := by
  unfold Tree.addClass
  split
  · exact h
  · exact h.setAttr _ _

/-- Removing a class leaves different names. -/
lemma removeClass (h : t.Distinct) (name : String) : (t.removeClass name).Distinct := by
  unfold Tree.removeClass
  split
  · exact h
  · dsimp only
    split
    · exact h.removeAttr _
    · exact h.setAttr _ _

end Distinct

/-- What fills a hole can be exchanged for a tree that has each name once as well. -/
lemma distinct_plug {t : Tree NodeId} {C : Context} (h : (C.plug t).Distinct) :
    t.Distinct ∧ ∀ u : Tree NodeId, u.Distinct → (C.plug u).Distinct := by
  induction C generalizing t with
  | top => exact ⟨h, fun _ hu => hu⟩
  | inside outer label tag attrs hidden before after ih =>
    obtain ⟨helement, hplug⟩ := ih h
    obtain ⟨hattrs, hchildren⟩ := distinct_element.1 helement
    refine ⟨hchildren t (by simp), fun u hu => hplug _ (distinct_element.2 ⟨hattrs, ?_⟩)⟩
    intro v hv
    rcases List.mem_append.1 hv with hv | hv
    · exact hchildren v (List.mem_append_left _ hv)
    · rcases List.mem_cons.1 hv with rfl | hv
      · exact hu
      · exact hchildren v (List.mem_append_right _ (List.mem_cons_of_mem _ hv))

end Tree

end TreeTemplate
