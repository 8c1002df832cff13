import TreeTemplate.Proofs.Forest.Links
import TreeTemplate.Proofs.Forest.Names
import Mathlib.Logic.Relation

/-!
# Well-formed documents

What holds of a document as it can be looked at: which identities are free, which nodes there are,
how parents and children belong together, and that no element has two attributes of one name.

All of it follows from three facts about the trees of the document: its supply is sound for them,
one of them begins with the document node, and no element in them has two attributes of one name.

Main statements:

* `Orderly.wellFormed` — a document with these three properties is well formed;
* `WellFormed.sound` — the supply of a well-formed document is sound for what can be found.
-/

namespace TreeTemplate.Document

open TreeTemplate.Tree (releasedOf)

variable {d : Document} {n m c p : NodeId} {t u : Tree NodeId} {ts us rest : List (Tree NodeId)}
  {C : Tree.Context}

/-- The identities under which a document has a node, among those that have been made. -/
def live (d : Document) : List NodeId :=
  ((List.range d.supply.size).map NodeId.mk).filter fun n => (d.find? n).isSome

/-- What holds of the nodes of a document, of their links, and of the free identities. -/
structure WellFormed (d : Document) : Prop where
  /-- No identity is free twice. -/
  free_nodup : d.supply.free.Nodup
  /-- The free identities are those that have been made and that no node has. -/
  mem_free : ∀ n, n ∈ d.supply.free ↔ n.index < d.supply.size ∧ d.find? n = none
  /-- The identity of a node has been made. -/
  made : ∀ n, (d.find? n).isSome → n.index < d.supply.size
  /-- The number of nodes is the number of identities under which there is one. -/
  nodeCount : d.nodeCount = d.live.length
  /-- A child of a node is a node. -/
  child : ∀ p t c, d.find? p = some t → c ∈ t.children → d.find? c.label = some c
  /-- A node that has a parent is a node, and so is the parent. -/
  parent : ∀ c p, d.parent? c = some p → (d.find? c).isSome ∧ (d.find? p).isSome
  /-- A node stands once among the children of its parent, and not among those of others. -/
  count : ∀ p t c, d.find? p = some t →
    (t.children.map Tree.label).count c = if d.parent? c = some p then 1 else 0
  /-- No node is above itself. -/
  acyclic : ∀ n, ¬ Relation.TransGen (fun c p => d.parent? c = some p) n n
  /-- The document node is an element without a parent. -/
  root : ∃ t, d.find? root = some t ∧ t.isElement = true ∧ d.parent? root = none
  /-- Nothing is below a text. -/
  text : ∀ n t, d.find? n = some t → t.isElement = false → t.children = []
  /-- No element has two attributes of one name. -/
  names : ∀ n t, d.find? n = some t → (t.attrs.map Prod.fst).Nodup

namespace WellFormed

/-- A node is there if it is found. -/
lemma mem_live (h : d.WellFormed) : n ∈ d.live ↔ (d.find? n).isSome := by
  refine ⟨fun hn => (List.mem_filter.1 hn).2, fun hn => List.mem_filter.2 ⟨?_, hn⟩⟩
  exact Supply.mem_made.2 (h.made n hn)

/-- The supply of a well-formed document is sound for the identities of its nodes. -/
lemma sound (h : d.WellFormed) : d.supply.Sound d.live := by
  have hlive : d.live.Nodup := d.supply.nodup_made.filter _
  have happart : ∀ n ∈ d.live, ∀ m ∈ d.supply.free, n ≠ m := by
    rintro n hn m hm rfl
    rw [h.mem_live, ((h.mem_free n).1 hm).2] at hn
    cases hn
  have hnodup : (d.live ++ d.supply.free).Nodup :=
    List.nodup_append.2 ⟨hlive, h.free_nodup, happart⟩
  refine (List.perm_ext_iff_of_nodup hnodup d.supply.nodup_made).2 fun n => ?_
  rw [List.mem_append, h.mem_live, h.mem_free, Supply.mem_made]
  cases hn : d.find? n with
  | none => simp
  | some t => simpa using h.made n (by rw [hn]; rfl)

end WellFormed

/-- A document has the given trees, in some order, its supply is sound for them, one of them begins
with the document node, and no element has two attributes of one name. -/
structure Orderly (d : Document) (ts : List (Tree NodeId)) : Prop extends d.Has ts where
  rooted : ∃ t ∈ ts, t.label = Document.root ∧ t.isElement = true
  distinct : ∀ t ∈ ts, t.Distinct

namespace Orderly

/-- It does not matter in which order the trees are. -/
lemma perm (h : d.Orderly ts) (hp : ts.Perm us) : d.Orderly us where
  toHas := h.toHas.perm hp
  rooted := by
    obtain ⟨t, ht, hroot⟩ := h.rooted
    exact ⟨t, hp.mem_iff.1 ht, hroot⟩
  distinct t ht := h.distinct t (hp.mem_iff.2 ht)

/-- A node that is found fills a context in one of the trees. -/
lemma exists_plug (h : d.Orderly ts) (hn : d.find? n = some t) :
    ∃ (C : Tree.Context) (rest : List (Tree NodeId)),
      d.Orderly (C.plug t :: rest) ∧ t.label = n := by
  obtain ⟨C, rest, hp, -, hl⟩ := h.toHas.exists_plug hn
  exact ⟨C, rest, h.perm hp.symm, hl⟩

/-- A node that is found has each name once, and so has everything below it. -/
lemma distinct_of_find? (h : d.Orderly ts) (hn : d.find? n = some t) : t.Distinct := by
  obtain ⟨C, rest, h', -⟩ := h.exists_plug hn
  exact (Tree.distinct_plug (h'.distinct _ List.mem_cons_self)).1

/-- An identity has been made if a node has it or it is free, and never both. -/
lemma made_iff (h : d.Orderly ts) :
    (n.index < d.supply.size ↔ (d.find? n).isSome ∨ n ∈ d.supply.free) ∧
      ¬ ((d.find? n).isSome ∧ n ∈ d.supply.free) := by
  have hmem := (show (releasedOf ts ++ d.supply.free).Perm _ from h.sound).mem_iff (a := n)
  rw [List.mem_append, Supply.mem_made] at hmem
  rw [h.find?_isSome]
  exact ⟨hmem.symm, fun ⟨hn, hfree⟩ =>
    (List.nodup_append.1 h.sound.nodup_append).2.2 n hn n hfree rfl⟩

/-- The nodes that there are have the identities of the trees. -/
lemma live_perm (h : d.Orderly ts) : d.live.Perm (releasedOf ts) := by
  have hsplit := (show (releasedOf ts ++ d.supply.free).Perm _ from h.sound).filter
    fun n => (d.find? n).isSome
  have hfree : d.supply.free.filter (fun n => (d.find? n).isSome) = [] :=
    List.filter_eq_nil_iff.2 fun n hn hs => h.made_iff.2 ⟨hs, hn⟩
  rw [List.filter_append, List.filter_eq_self.2 fun n hn => h.find?_isSome.2 hn, hfree,
    List.append_nil] at hsplit
  exact hsplit.symm

/-- The children of a node have different identities. -/
lemma nodup_children (h : d.Orderly ts) (hn : d.find? n = some t) :
    (t.children.map Tree.label).Nodup := by
  obtain ⟨C, rest, h', -⟩ := h.exists_plug hn
  cases t with
  | element m tag attrs hidden children =>
    have hreleased := (List.nodup_append.1 h'.nodup_plug).1
    rw [Tree.released_element, List.nodup_append] at hreleased
    exact hreleased.1.sublist (Tree.map_label_sublist children)
  | text m content => exact List.nodup_nil

/-- What stands below a node is smaller than the node. -/
lemma parent?_lt (h : d.Orderly ts) (hc : d.parent? c = some p) :
    ((d.find? c).elim 0 fun t => t.released.length) <
      (d.find? p).elim 0 fun t => t.released.length := by
  obtain ⟨t, ht, hmem⟩ := h.of_parent? hc
  obtain ⟨u, hu, rfl⟩ := List.mem_map.1 hmem
  rw [(h.child ht hu).1, ht]
  exact Tree.length_released_lt hu

/-- A document with a sound supply, a document node and single names is well formed. -/
theorem wellFormed (h : d.Orderly ts) : d.WellFormed where
  free_nodup := (List.nodup_append.1 h.sound.nodup_append).2.1
  mem_free n := by
    have hmade := h.made_iff (n := n)
    cases hn : d.find? n with
    | none => simp [hmade.1, hn]
    | some t => simpa [hn] using hmade.2
  made n hs := h.made_iff.1.2 (.inl hs)
  nodeCount := by
    rw [Document.nodeCount, h.sound.inUse, h.live_perm.length_eq]
  child p t c ht hc := (h.child ht hc).1
  parent c p hc := by
    obtain ⟨t, ht, hmem⟩ := h.of_parent? hc
    obtain ⟨u, hu, rfl⟩ := List.mem_map.1 hmem
    simp [(h.child ht hu).1, ht]
  count p t c ht := by
    by_cases hc : d.parent? c = some p
    · obtain ⟨t', ht', hmem⟩ := h.of_parent? hc
      obtain rfl : t = t' := Option.some.inj (ht.symm.trans ht')
      rw [if_pos hc, List.count_eq_one_of_mem (h.nodup_children ht) hmem]
    · rw [if_neg hc, List.count_eq_zero]
      intro hmem
      obtain ⟨u, hu, rfl⟩ := List.mem_map.1 hmem
      exact hc (h.child ht hu).2
  acyclic n hn := by
    -- what has a parent has fewer nodes below it than its parent
    have hlt {c p} (hc : Relation.TransGen (fun c p => d.parent? c = some p) c p) :
        ((d.find? c).elim 0 fun t => t.released.length) <
          (d.find? p).elim 0 fun t => t.released.length := by
      induction hc with
      | single hc => exact h.parent?_lt hc
      | tail _ hc ih => exact Nat.lt_trans ih (h.parent?_lt hc)
    exact Nat.lt_irrefl _ (hlt hn)
  root := by
    obtain ⟨t, ht, hl, he⟩ := h.rooted
    obtain ⟨before, after, rfl⟩ := List.append_of_mem ht
    have h' := h.toHas.perm List.perm_middle
    rw [← hl]
    exact ⟨t, h'.find? (C := .top), he, h'.parent?_top⟩
  text n t _ ht := by
    cases t with
    | element => cases ht
    | text => rfl
  names n t ht := (h.distinct_of_find? ht).attrs_nodup

end Orderly

end TreeTemplate.Document
