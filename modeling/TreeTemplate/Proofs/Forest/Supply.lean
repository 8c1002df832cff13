import TreeTemplate.Proofs.Forest.Identities
import Mathlib.Data.List.Nodup

/-!
# Sound supplies

A supply is sound for some identities when these and the free ones are all that have been made, each
of them once. Then no two nodes share an identity, and an identity that is handed out is new.

Main statements:

* `Sound.give`, `Sound.plant`, `Sound.plantAll` — identities given back and handed out;
* `Sound.inUse` — the number of identities in use is the number of nodes.
-/

namespace TreeTemplate.Supply

variable {s : Supply} {ids : List NodeId}

/-- The identities that have been made are the given ones and the free ones, each once. -/
def Sound (s : Supply) (ids : List NodeId) : Prop :=
  (ids ++ s.free).Perm ((List.range s.size).map NodeId.mk)

/-- The identities that have been made are those below the size. -/
lemma mem_made {n : NodeId} : n ∈ (List.range s.size).map NodeId.mk ↔ n.index < s.size := by
  obtain ⟨index⟩ := n
  simp

/-- The identities that have been made are different. -/
lemma nodup_made (s : Supply) : ((List.range s.size).map NodeId.mk).Nodup :=
  List.nodup_range.map fun _ _ e => congrArg NodeId.index e

namespace Sound

/-- It does not matter in which order the identities in use are. -/
lemma perm {ids ids' : List NodeId} (h : s.Sound ids) (hp : ids.Perm ids') : s.Sound ids' :=
  (hp.symm.append_right s.free).trans h

/-- No identity is both in use and free, and none is so twice. -/
lemma nodup_append (h : s.Sound ids) : (ids ++ s.free).Nodup :=
  h.nodup_iff.2 s.nodup_made

/-- No two nodes share an identity. -/
lemma nodup (h : s.Sound ids) : ids.Nodup :=
  (List.nodup_append.1 h.nodup_append).1

/-- The number of identities in use is the number of nodes. -/
lemma inUse (h : s.Sound ids) : s.inUse = ids.length := by
  have hlength := List.Perm.length_eq h
  simp only [List.length_append, List.length_map, List.length_range] at hlength
  unfold Supply.inUse
  omega

/-- An empty supply is sound for nothing. -/
lemma empty : Sound {} [] := .refl _

/-- Identities that are given back are no longer in use. -/
lemma give {gone : List NodeId} (h : s.Sound (gone ++ ids)) : (s.give gone).Sound ids := by
  refine .trans (List.perm_iff_count.2 fun n => ?_) h
  simp only [Supply.give, List.count_append, List.count_reverse]
  omega

/-- An identity that is handed out joins those in use. -/
lemma take (h : s.Sound ids) : s.take.2.Sound (s.take.1 :: ids) := by
  obtain ⟨size, free⟩ := s
  cases free with
  | nil =>
    simp only [Sound, Supply.take, List.append_nil, List.range_succ, List.map_append] at h ⊢
    exact (List.perm_append_singleton _ _).symm.trans (h.append_right [⟨size⟩])
  | cons n free =>
    refine .trans (List.perm_iff_count.2 fun m => ?_) h
    simp only [Supply.take, List.count_append, List.count_cons]
    omega

end Sound

mutual

/-- The nodes of a planted tree have new identities. -/
lemma Sound.plant {ι : Type} {s : Supply} {ids : List NodeId} (h : s.Sound ids) (t : Tree ι) :
    (s.plant t).2.Sound ((s.plant t).1.released ++ ids) := by
  cases t with
  | element label tag attrs hidden children =>
    have hs := Sound.plantAll h.take children
    simp only [Supply.plant, Tree.released_element]
    refine hs.perm (List.perm_iff_count.2 fun n => ?_)
    simp only [List.count_append, List.count_cons, List.count_nil]
    omega
  | text label content => exact h.take

/-- The nodes of planted trees have new identities. -/
lemma Sound.plantAll {ι : Type} {s : Supply} {ids : List NodeId} (h : s.Sound ids)
    (ts : List (Tree ι)) :
    (s.plantAll ts).2.Sound (Tree.releasedOf (s.plantAll ts).1 ++ ids) := by
  cases ts with
  | nil => exact h
  | cons t ts =>
    have ht := Sound.plant h t
    have hs := Sound.plantAll ht ts
    simp only [Supply.plantAll, Tree.releasedOf_cons]
    refine hs.perm (List.perm_iff_count.2 fun n => ?_)
    simp only [List.count_append]
    omega

end

end TreeTemplate.Supply
