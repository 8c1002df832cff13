import TreeTemplate.Proofs.Arena.Links
import Mathlib.Logic.Relation

/-!
# Well-formed arenas

What holds of an arena slot by slot: which slots are free, how parents and children belong together,
and that no element has two attributes of one name. Whether something hangs from a text is a
property of its own, since nothing keeps an operation from putting a node there.

All of it follows from what branches an arena represents, one of which begins with the document
node.

Main statements:

* `Represents.reaches_of_mem` — from every node of a branch the links lead to where it begins;
* `Represents.acyclic` — no link leads back;
* `Orderly.wellFormed` — an arena that represents branches in order is well formed.
-/

namespace TreeTemplate

open Relation (ReflTransGen TransGen)

/-! ## What holds of every node of a branch -/

/-- The attributes of a node have different names, and nothing hangs from a text if that is asked
for. -/
structure NodeData.Fits (strict : Prop) (data : NodeData) (children : List NodeId) : Prop where
  names : (data.attrs.map Prod.fst).Nodup
  text : strict → data.isElement = false → children = []

namespace Branch

variable {strict : Prop} {n : NodeId} {data : NodeData} {r u : Branch} {rs : List Branch}
  {C : Context}

/-- Every node of a branch fits what hangs from it. -/
def Tidy (strict : Prop) (r : Branch) : Prop :=
  ∀ x ∈ r.slots none, x.2.data.Fits strict x.2.children

/-- The node from which a branch hangs does not matter. -/
lemma tidy_iff (q : Option NodeId) :
    r.Tidy strict ↔ ∀ x ∈ r.slots q, x.2.data.Fits strict x.2.children := by
  cases r
  simp [Tidy]

/-- A branch is tidy if its node fits what hangs from it, and the branches that hang from it are
tidy. -/
lemma tidy_node : (node n data rs).Tidy strict ↔
    data.Fits strict (rs.map label) ∧ ∀ r ∈ rs, r.Tidy strict := by
  have hbelow : (∀ x ∈ slotsOf (some n) rs, x.2.data.Fits strict x.2.children) ↔
      ∀ r ∈ rs, r.Tidy strict := by
    induction rs with
    | nil => simp
    | cons r rs ih =>
      rw [slotsOf_cons, List.forall_mem_append, ih, List.forall_mem_cons, tidy_iff (some n)]
  rw [Tidy, slots_node, List.forall_mem_cons, hbelow]

/-- What fills a hole can be exchanged for a tidy branch that begins with the same node. -/
lemma tidy_plug (h : (C.plug r).Tidy strict) :
    r.Tidy strict ∧ ∀ u : Branch, u.label = r.label → u.Tidy strict → (C.plug u).Tidy strict := by
  induction C generalizing r with
  | top => exact ⟨h, fun _ _ hu => hu⟩
  | inside outer m mdata before after ih =>
    obtain ⟨hnode, hplug⟩ := ih h
    obtain ⟨hfits, hbelow⟩ := tidy_node.1 hnode
    refine ⟨hbelow r (by simp), fun u hl hu => hplug _ rfl (tidy_node.2 ⟨?_, fun w hw => ?_⟩)⟩
    · simpa [hl] using hfits
    · rcases List.mem_append.1 hw with hw | hw
      · exact hbelow w (by simp [hw])
      · rcases List.mem_cons.1 hw with rfl | hw
        · exact hu
        · exact hbelow w (by simp [hw])

end Branch

namespace Arena

open TreeTemplate.Branch (slotsOf idsOf)

variable {a a' : Arena} {n m c p : NodeId} {s : Slot} {data : NodeData} {r u : Branch}
  {rs us rest : List Branch} {C : Branch.Context} {strict : Prop}

/-! ## Well-formed arenas -/

/-- A node hangs from another one. -/
def HangsFrom (a : Arena) (n p : NodeId) : Prop :=
  a.parent? n = some p

/-- The identities whose slots are not empty. -/
def live (a : Arena) : List NodeId :=
  ((List.range a.slots.size).map NodeId.mk).filter fun n => (a.node? n).isSome

/-- What holds of the slots of an arena, of the links between them, and of the free ones. -/
structure WellFormed (a : Arena) : Prop where
  /-- No slot is free twice. -/
  free_nodup : a.free.Nodup
  /-- The free slots are the empty ones. -/
  mem_free : ∀ n, n ∈ a.free ↔ n.index < a.slots.size ∧ a.node? n = none
  /-- The number of nodes is the number of slots that are not empty. -/
  nodeCount : a.nodeCount = a.live.length
  /-- What is listed among the children of a node is a node. -/
  child : ∀ p s, a.node? p = some s → ∀ c ∈ s.children, (a.node? c).isSome
  /-- What a node hangs from is a node. -/
  parent : ∀ c p, a.HangsFrom c p → (a.node? p).isSome
  /-- A node is listed once among the children of the node that it hangs from, and not among those
  of others. -/
  count : ∀ p s c, a.node? p = some s →
    s.children.count c = if a.parent? c = some p then 1 else 0
  /-- No node hangs from itself, directly or not. -/
  acyclic : ∀ n, ¬ TransGen a.HangsFrom n n
  /-- The document node is an element that hangs from nothing. -/
  root : ∃ s, a.node? Document.root = some s ∧ s.data.isElement = true ∧ s.parent = none
  /-- No element has two attributes of one name. -/
  names : ∀ n s, a.node? n = some s → (s.data.attrs.map Prod.fst).Nodup

/-- Nothing hangs from a text. -/
def BareTexts (a : Arena) : Prop :=
  ∀ n s, a.node? n = some s → s.data.isElement = false → s.children = []

/-! ## Links -/

namespace Represents

/-- A node that hangs from another one is listed among its children. -/
lemma mem_children (h : a.Represents rs) (hc : a.HangsFrom c p) :
    ∃ s, a.node? p = some s ∧ c ∈ s.children := by
  obtain ⟨t, ht, hp⟩ := Option.bind_eq_some_iff.1 hc
  rcases Branch.parent_memOf ((h.holds.node?_eq_some c t).1 ht) with ⟨-, hnone⟩ |
      ⟨q, s, hs, hq, hmem⟩
  · rw [hp] at hnone
    cases hnone
  · obtain rfl : p = q := Option.some.inj (hp.symm.trans hq)
    exact ⟨s, (h.holds.node?_eq_some p s).2 hs, hmem⟩

/-- What is listed among the children of a node hangs from it. -/
lemma hangsFrom (h : a.Represents rs) (hp : a.node? p = some s) (hc : c ∈ s.children) :
    a.HangsFrom c p := by
  obtain ⟨t, ht, hparent⟩ := Branch.child_memOf ((h.holds.node?_eq_some p s).1 hp) hc
  rw [HangsFrom, parent?, (h.holds.node?_eq_some c t).2 ht]
  exact hparent

/-- What hangs from a node of branches that hang from a node of the arena is in these branches. -/
lemma mem_of_hangsFrom (h : a.Represents (C.plug (.node n data us) :: rest))
    (hc : a.HangsFrom c p) (hp : p ∈ idsOf us) : c ∈ idsOf us := by
  obtain ⟨⟨q, s⟩, hs, rfl⟩ := List.mem_map.1 ((Branch.slotsOf_ids (some n) us).mem_iff.2 hp)
  obtain ⟨s', hs', hmem⟩ := h.mem_children hc
  have hheld : a.node? q = some s := (h.holds_plug.node?_eq_some q s).2 (by simp [hs])
  obtain rfl : s = s' := Option.some.inj (hheld.symm.trans hs')
  obtain ⟨t, ht, -⟩ := Branch.child_memOf hs hmem
  exact (Branch.slotsOf_ids (some n) us).mem_iff.1 (List.mem_map_of_mem ht)

/-- From every node of a branch the links lead to where it begins. -/
lemma reaches_of_mem (h : a.Represents (C.plug r :: rest)) (hn : n ∈ r.ids) :
    ReflTransGen a.HangsFrom n r.label := by
  obtain ⟨inner, u, rfl, rfl⟩ := Branch.exists_plug hn
  clear hn
  induction inner generalizing u with
  | top => exact .refl
  | inside outer m mdata before after ih =>
    have hlink : a.HangsFrom u.label m := by
      have h' : a.Represents
          ((C.comp (.inside outer m mdata before after)).plug u :: rest) := by
        rw [Branch.Context.plug_comp]
        exact h
      rw [HangsFrom, parent?, h'.node?_plug]
      rfl
    exact .head hlink (ih (.node m mdata (before ++ u :: after)) h)

/-- What hangs from the node that a branch begins with is in the branch. -/
lemma mem_of_hangsFrom_label (h : a.Represents (C.plug (.node n data us) :: rest))
    (hc : a.HangsFrom c n) : c ∈ idsOf us := by
  obtain ⟨s, hs, hmem⟩ := h.mem_children hc
  obtain rfl := Option.some.inj (h.node?_plug.symm.trans hs)
  exact (Branch.map_label_sublist us).subset hmem

/-- The nodes of a branch are those from which the links lead to where it begins. -/
lemma reaches_iff (h : a.Represents (C.plug r :: rest)) :
    ReflTransGen a.HangsFrom n r.label ↔ n ∈ r.ids := by
  refine ⟨fun hn => ?_, h.reaches_of_mem⟩
  induction hn using ReflTransGen.head_induction_on with
  | refl => exact Branch.label_mem_ids r
  | head hc _ ih =>
    obtain ⟨m, data, us⟩ := r
    rw [Branch.ids_node, List.mem_append, List.mem_singleton] at ih ⊢
    rcases ih with ih | rfl
    · exact .inl (h.mem_of_hangsFrom hc ih)
    · exact .inl (h.mem_of_hangsFrom_label hc)

/-- No node hangs from itself, directly or not. -/
lemma acyclic (h : a.Represents rs) (n : NodeId) : ¬ TransGen a.HangsFrom n n := by
  intro hn
  have hlive : (a.node? n).isSome := by
    obtain ⟨p, hp, -⟩ := TransGen.head'_iff.1 hn
    obtain ⟨t, ht, -⟩ := Option.bind_eq_some_iff.1 hp
    exact Option.isSome_iff_exists.2 ⟨t, ht⟩
  obtain ⟨C, r, rest, h', rfl, -⟩ := h.exists_plug hlive
  obtain ⟨n, data, us⟩ := r
  -- whatever is above the node would be among what hangs from it
  have hbelow {m : NodeId} (hm : TransGen a.HangsFrom m n) : m ∈ idsOf us := by
    induction hm using TransGen.head_induction_on with
    | single hc => exact h'.mem_of_hangsFrom_label hc
    | head hc _ ih => exact h'.mem_of_hangsFrom hc ih
  exact h'.nodup_children.2 (hbelow hn)

/-- An identity has been made if a node has it or it is free, and never both. -/
lemma made_iff (h : a.Represents rs) :
    (n.index < a.slots.size ↔ (a.node? n).isSome ∨ n ∈ a.free) ∧
      ¬ ((a.node? n).isSome ∧ n ∈ a.free) := by
  have hmem := (show (idsOf rs ++ a.free).Perm _ from h.sound).mem_iff (a := n)
  rw [List.mem_append, Supply.mem_made] at hmem
  rw [h.node?_isSome]
  exact ⟨hmem.symm, fun ⟨hn, hfree⟩ =>
    (List.nodup_append.1 h.sound.nodup_append).2.2 n hn n hfree rfl⟩

/-- The nodes that there are are those of the branches. -/
lemma live_perm (h : a.Represents rs) : a.live.Perm (idsOf rs) := by
  refine (List.perm_ext_iff_of_nodup (a.supply.nodup_made.filter _) h.nodup).2 fun n => ?_
  rw [← h.node?_isSome, List.mem_filter, Supply.mem_made]
  exact and_iff_right_of_imp fun hn => h.made_iff.1.2 (.inl hn)

end Represents

/-! ## Arenas in order -/

/-- An arena represents tidy branches, one of which begins with the document node. -/
structure Orderly (strict : Prop) (a : Arena) (rs : List Branch) :
    Prop extends a.Represents rs where
  rooted : ∃ r ∈ rs, r.label = Document.root ∧ r.data.isElement = true
  tidy : ∀ r ∈ rs, r.Tidy strict

namespace Orderly

/-- It does not matter in which order the branches are. -/
lemma perm (h : a.Orderly strict rs) (hp : rs.Perm us) : a.Orderly strict us where
  toRepresents := h.toRepresents.perm hp
  rooted := by
    obtain ⟨r, hr, hroot⟩ := h.rooted
    exact ⟨r, hp.mem_iff.1 hr, hroot⟩
  tidy r hr := h.tidy r (hp.mem_iff.2 hr)

/-- Every node of the arena fills a context in one of the branches. -/
lemma exists_plug (h : a.Orderly strict rs) (hn : (a.node? n).isSome) :
    ∃ (C : Branch.Context) (data : NodeData) (us rest : List Branch),
      a.Orderly strict (C.plug (.node n data us) :: rest) := by
  obtain ⟨C, r, rest, h', rfl, hp⟩ := h.toRepresents.exists_plug hn
  obtain ⟨n, data, us⟩ := r
  exact ⟨C, data, us, rest, h.perm hp.symm⟩

/-- What is in a slot fits what hangs from it. -/
lemma fits (h : a.Orderly strict rs) (hn : a.node? n = some s) : s.data.Fits strict s.children := by
  obtain ⟨C, data, us, rest, h'⟩ := h.exists_plug (Option.isSome_iff_exists.2 ⟨s, hn⟩)
  obtain rfl := Option.some.inj (h'.node?_plug.symm.trans hn)
  exact (Branch.tidy_node.1 (Branch.tidy_plug (h'.tidy _ List.mem_cons_self)).1).1

/-- An arena in order is well formed. -/
theorem wellFormed (h : a.Orderly strict rs) : a.WellFormed where
  free_nodup := (List.nodup_append.1 h.sound.nodup_append).2.1
  mem_free n := by
    have hmade := h.made_iff (n := n)
    cases hn : a.node? n with
    | none => simp [hmade.1, hn]
    | some s => simpa [hn] using hmade.2
  nodeCount := by
    rw [h.live_perm.length_eq]
    exact h.sound.inUse
  child p s hp c hc := by
    obtain ⟨t, ht, -⟩ := Option.bind_eq_some_iff.1 (h.hangsFrom hp hc)
    exact Option.isSome_iff_exists.2 ⟨t, ht⟩
  parent c p hc := by
    obtain ⟨s, hs, -⟩ := h.mem_children hc
    exact Option.isSome_iff_exists.2 ⟨s, hs⟩
  count p s c hp := by
    obtain ⟨C, data, us, rest, h'⟩ := h.exists_plug (Option.isSome_iff_exists.2 ⟨s, hp⟩)
    obtain rfl := Option.some.inj (h'.node?_plug.symm.trans hp)
    by_cases hc : a.parent? c = some p
    · obtain ⟨t, ht, hmem⟩ := h.mem_children hc
      obtain rfl := Option.some.inj (hp.symm.trans ht)
      rw [if_pos hc]
      exact List.count_eq_one_of_mem h'.nodup_children.1 hmem
    · rw [if_neg hc, List.count_eq_zero]
      exact fun hmem => hc (h.hangsFrom hp hmem)
  acyclic := h.acyclic
  root := by
    obtain ⟨r, hr, hl, he⟩ := h.rooted
    obtain ⟨before, after, rfl⟩ := List.append_of_mem hr
    have h' : a.Represents (Branch.Context.top.plug r :: (before ++ after)) :=
      h.toRepresents.perm List.perm_middle
    exact ⟨_, hl ▸ h'.node?_plug, he, rfl⟩
  names n s hn := (h.fits hn).names

/-- Nothing hangs from a text where that was asked for. -/
lemma bareTexts (h : a.Orderly strict rs) (hstrict : strict) : a.BareTexts :=
  fun _ _ hn => (h.fits hn).text hstrict

end Orderly

end Arena

end TreeTemplate
