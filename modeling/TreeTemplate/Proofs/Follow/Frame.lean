import TreeTemplate.Proofs.Forest.Operations
import TreeTemplate.Proofs.Stocked.Element
import TreeTemplate.Walk.Basic

/-!
# Elements in a document

A walk that has come to an element works on what belongs to that element: the element and what is
below it, the templates that are stashed for these elements, and the entries of the stash. The rest
of the document and of the stash is the frame, which a walk inside the element leaves as it is.

Main statements:

* `Holds.count_le`, `Holds.find?_stash` — identities and entries are not confused;
* `Holds.inside_iff` — going from an element to one of its children and back.
-/

namespace TreeTemplate

open TreeTemplate.Tree (releasedOf)
open Stocked (ownEntries storedOf)

/-- Where a walk is: the element, the positions in the ordered lists and maps around, and the number
of elements that have been entered. -/
structure Place where
  node : NodeId
  positions : List Nat
  depth : Nat

/-- What is around an element: the tree around the element, the other trees, and the other entries
of the stash, whose elements are in these trees. -/
structure Frame where
  context : Tree.Context
  trees : List (Tree NodeId)
  entries : List (NodeId × Stored)
  keys_le : ∀ n, (entries.map Prod.fst).count n ≤ (context.ids ++ releasedOf trees).count n

namespace Frame

/-- The frame of a whole tree, with nothing else beside it. -/
def alone : Frame where
  context := .top
  trees := []
  entries := []
  keys_le _ := Nat.zero_le _

/-- The identities of the nodes around an element. -/
def ids (φ : Frame) : List NodeId :=
  φ.context.ids ++ releasedOf φ.trees

/-- The frame of a child of an element, with the other children before and after it. -/
def inside (φ : Frame) (n : NodeId) (head : Head) (stock before after : List (Stocked NodeId)) :
    Frame where
  context := .inside φ.context n head.tag head.attrs head.hidden (before.map Stocked.tree)
    (after.map Stocked.tree)
  trees := stock.map Stocked.tree ++ stock.flatMap Stocked.roots ++
    before.flatMap Stocked.roots ++ after.flatMap Stocked.roots ++ φ.trees
  entries := ownEntries n stock ++ stock.flatMap Stocked.entries ++
    before.flatMap Stocked.entries ++ after.flatMap Stocked.entries ++ φ.entries
  keys_le m := by
    have hown := Stocked.count_ownKeys_le m n stock
    have hs := Stocked.count_keysOf_le m stock
    have hb := Stocked.count_keysOf_le m before
    have ha := Stocked.count_keysOf_le m after
    have hφ := φ.keys_le m
    rw [(Stocked.labelsOf_perm stock).count_eq] at hs
    rw [(Stocked.labelsOf_perm before).count_eq] at hb
    rw [(Stocked.labelsOf_perm after).count_eq] at ha
    simp only [List.map_append, List.count_append, Tree.Context.ids_inside, List.count_cons,
      List.count_nil, Tree.releasedOf_append] at *
    omega

end Frame

/-- A state holds an element at a place, with a frame around it. -/
structure Holds (s : Walk.State) (here : Place) (φ : Frame) (P : Element NodeId) : Prop where
  document : s.document.Has (φ.context.plug (P.labelled here.node).tree ::
    ((P.labelled here.node).roots ++ φ.trees))
  stash : s.stash.entries.Perm ((P.labelled here.node).entries ++ φ.entries)
  positions : s.positions = here.positions
  depth : s.depth = here.depth

/-! ## Keys of a stash -/

section Keys

variable {n : NodeId} {stored : Stored} {entries : List (NodeId × Stored)}

/-- An entry is found where no key stands twice. -/
lemma lookup_of_mem (h : (n, stored) ∈ entries) (hn : (entries.map Prod.fst).Nodup) :
    entries.lookup n = some stored := by
  induction entries with
  | nil => cases h
  | cons entry entries ih =>
    obtain ⟨m, found⟩ := entry
    simp only [List.map_cons, List.nodup_cons] at hn
    rcases List.mem_cons.1 h with e | h
    · cases e
      simp
    · have hne : n ≠ m := fun e => hn.1 (e ▸ List.mem_map.2 ⟨_, h, rfl⟩)
      rw [List.lookup_cons, beq_false_of_ne hne]
      exact ih h hn.2

/-- No entry is found for what is no key. -/
lemma lookup_of_notMem (h : n ∉ entries.map Prod.fst) : entries.lookup n = none := by
  induction entries with
  | nil => rfl
  | cons entry entries ih =>
    obtain ⟨m, found⟩ := entry
    simp only [List.map_cons, List.mem_cons, not_or] at h
    rw [List.lookup_cons, beq_false_of_ne h.1]
    exact ih h.2

end Keys

namespace Stash

variable {s : Stash} {n : NodeId} {stock : List (Stocked NodeId)}
  {rest : List (NodeId × Stored)}

/-- What is stashed for an element is found under its key. -/
lemma find?_of_perm (h : s.entries.Perm (ownEntries n stock ++ rest))
    (hkeys : (s.entries.map Prod.fst).Nodup) (hn : n ∉ rest.map Prod.fst) :
    s.find? n = storedOf stock := by
  cases e : storedOf stock with
  | none =>
    simp only [ownEntries, e, Option.toList_none, List.map_nil, List.nil_append] at h
    exact lookup_of_notMem fun hm => hn ((h.map _).mem_iff.1 hm)
  | some stored =>
    simp only [ownEntries, e, Option.toList_some, List.map_cons, List.map_nil] at h
    exact lookup_of_mem (h.mem_iff.2 (by simp)) hkeys

/-- What is stashed for an element is taken, and the other entries stay. -/
lemma take?_of_perm (h : s.entries.Perm (ownEntries n stock ++ rest))
    (hkeys : (s.entries.map Prod.fst).Nodup) (hn : n ∉ rest.map Prod.fst) :
    ∃ left : Stash, s.take? n = (storedOf stock).map (fun stored => (stored, left)) ∧
      left.entries.Perm rest := by
  refine ⟨⟨s.entries.filter (·.1 ≠ n)⟩, ?_, ?_⟩
  · rw [Stash.take?, find?_of_perm h hkeys hn]
  · have hown : (ownEntries n stock).filter (·.1 ≠ n) = [] := by
      simp [ownEntries]
    have hrest : rest.filter (·.1 ≠ n) = rest := by
      refine List.filter_eq_self.2 fun entry hm => ?_
      have hne : entry.1 ≠ n := fun e => hn (e ▸ List.mem_map_of_mem hm)
      simpa using hne
    have := h.filter (·.1 ≠ n)
    rwa [List.filter_append, hown, hrest, List.nil_append] at this

end Stash

namespace Holds

variable {s : Walk.State} {here : Place} {φ : Frame} {P : Element NodeId}

/-- Every identity stands once in an element and its frame. -/
lemma count_le (h : Holds s here φ P) (n : NodeId) : [here.node].count n +
    (P.stock.flatMap Stocked.labels).count n + (P.children.flatMap Stocked.labels).count n +
    φ.ids.count n ≤ 1 := by
  have hnodup := List.nodup_iff_count_le_one.1 h.document.sound.nodup n
  simp only [Tree.releasedOf_cons, Tree.releasedOf_append, List.count_append,
    (Tree.released_plug _ _).count_eq] at hnodup
  have hlabels := (Stocked.labels_perm (P.labelled here.node)).count_eq n
  simp only [Element.labelled, Stocked.labels_element, List.count_cons, List.count_append]
    at hlabels
  simp only [Frame.ids, List.count_append, List.count_cons, List.count_nil]
  simp only [Element.labelled] at hnodup
  omega

/-- What is stashed for the elements below an element, and for those
around. -/
def otherEntries (φ : Frame) (P : Element NodeId) : List (NodeId × Stored) :=
  P.stock.flatMap Stocked.entries ++ P.children.flatMap Stocked.entries ++ φ.entries

/-- The stash holds the entry of the element and the other entries. -/
lemma stash_perm (h : Holds s here φ P) :
    s.stash.entries.Perm (ownEntries here.node P.stock ++ otherEntries φ P) := by
  have := h.stash
  simp only [Element.labelled, Stocked.entries_element, List.append_assoc] at this
  simpa only [otherEntries, List.append_assoc] using this

/-- The other entries belong to elements in stock, below the element and around it. -/
lemma count_otherKeys_le (φ : Frame) (P : Element NodeId) (n : NodeId) :
    ((otherEntries φ P).map Prod.fst).count n ≤
    (P.stock.flatMap Stocked.labels).count n + (P.children.flatMap Stocked.labels).count n +
    φ.ids.count n := by
  have hs := Stocked.count_keysOf_le n P.stock
  have hc := Stocked.count_keysOf_le n P.children
  have hφ := φ.keys_le n
  simp only [otherEntries, Frame.ids, List.map_append, List.count_append] at hφ ⊢
  omega

/-- No key of the stash stands twice. -/
lemma keys_nodup (h : Holds s here φ P) : (s.stash.entries.map Prod.fst).Nodup := by
  refine List.nodup_iff_count_le_one.2 fun n => ?_
  have hle := h.count_le n
  have hown := Stocked.count_ownKeys_le n here.node P.stock
  have hother := count_otherKeys_le φ P n
  rw [(h.stash_perm.map _).count_eq, List.map_append, List.count_append]
  omega

/-- The other entries do not belong to the element. -/
lemma node_notMem_otherKeys (h : Holds s here φ P) :
    here.node ∉ (otherEntries φ P).map Prod.fst := by
  have hle := h.count_le here.node
  have hother := count_otherKeys_le φ P here.node
  simp only [List.count_singleton_self] at hle
  exact List.count_eq_zero.1 (by omega)

/-- What is stashed for the element is its stock. -/
lemma find?_stash (h : Holds s here φ P) : s.stash.find? here.node = storedOf P.stock :=
  Stash.find?_of_perm h.stash_perm h.keys_nodup h.node_notMem_otherKeys

/-- The element is found in the document. -/
lemma find? (h : Holds s here φ P) :
    s.document.find? here.node = some (P.labelled here.node).tree := by
  have := h.document.find?
  rwa [Stocked.label_tree] at this

/-- Going from an element to one of its children and back. -/
lemma inside_iff {positions : List Nat} {depth : Nat} {n m : NodeId} {head : Head}
    {stock before after : List (Stocked NodeId)} {Q : Element NodeId} :
    Holds s ⟨m, positions, depth⟩ (φ.inside n head stock before after) Q ↔
      Holds s ⟨n, positions, depth⟩ φ ⟨head, stock, before ++ Q.labelled m :: after⟩ := by
  classical
  have htrees : ((φ.inside n head stock before after).context.plug (Q.labelled m).tree ::
      ((Q.labelled m).roots ++ (φ.inside n head stock before after).trees)).Perm
      (φ.context.plug (Element.labelled ⟨head, stock, before ++ Q.labelled m :: after⟩ n).tree ::
        ((Element.labelled ⟨head, stock, before ++ Q.labelled m :: after⟩ n).roots ++
          φ.trees)) := by
    refine List.perm_iff_count.2 fun t => ?_
    simp only [Frame.inside, Tree.Context.plug, Element.labelled, Stocked.tree_element,
      Stocked.roots_element, List.map_append, List.map_cons, List.flatMap_append,
      List.flatMap_cons, List.count_append, List.count_cons]
    omega
  have hentries : ((Q.labelled m).entries ++
      (φ.inside n head stock before after).entries).Perm
      ((Element.labelled ⟨head, stock, before ++ Q.labelled m :: after⟩ n).entries ++
        φ.entries) := by
    refine List.perm_iff_count.2 fun entry => ?_
    simp only [Frame.inside, Element.labelled, Stocked.entries_element, List.flatMap_append,
      List.flatMap_cons, List.count_append]
    omega
  exact ⟨fun h => ⟨h.document.perm htrees, h.stash.trans hentries, h.positions, h.depth⟩,
    fun h => ⟨h.document.perm htrees.symm, h.stash.trans hentries.symm, h.positions, h.depth⟩⟩

end Holds

end TreeTemplate
