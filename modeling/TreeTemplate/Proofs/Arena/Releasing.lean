import TreeTemplate.Proofs.Arena.Links

/-!
# Releasing nodes of an arena

A node is released with everything below it: the slots are emptied from the node down, and given
back from below. What an arena holds apart from the branch stays as it is, and the identities of the
branch are given back in the order in which they stand in it.

Main statements:

* `Holds.release` — a branch is released;
* `Represents.removeChildrenWhere?`, `Represents.remove?_of_detach?` — branches are removed.
-/

namespace TreeTemplate

/-- Identities that are given back in two parts. -/
lemma Supply.give_append (s : Supply) (first later : List NodeId) :
    s.give (first ++ later) = (s.give first).give later := by
  simp [Supply.give]

namespace Arena

open TreeTemplate.Branch (slotsOf idsOf)

variable {a a' : Arena} {n : NodeId} {data : NodeData} {r : Branch} {rs rest : List Branch}
  {C : Branch.Context} {held : List (NodeId × Slot)}

mutual

/-- A branch is released: what else is held stays, and its identities are given back. -/
lemma Holds.release {a : Arena} {room : Nat} {q : Option NodeId} {r : Branch}
    {held : List (NodeId × Slot)} (h : a.Holds (r.slots q ++ held)) (hroom : r.ids.length ≤ room) :
    (Arena.release room a r.label).Holds held ∧
      (Arena.release room a r.label).supply = a.supply.give r.ids := by
  obtain ⟨n, data, rs⟩ := r
  rw [Branch.ids_node, List.length_append, List.length_singleton] at hroom
  obtain ⟨room, rfl⟩ : ∃ k, room = k + 1 := ⟨room - 1, by omega⟩
  have hnode : a.Holds ((n, ⟨q, data, rs.map Branch.label⟩) :: (slotsOf (some n) rs ++ held)) := by
    simpa using h
  obtain ⟨hbelow, hsupply⟩ := Holds.releaseEach hnode.clear (show (idsOf rs).length ≤ room by omega)
  rw [supply_put] at hsupply
  rw [Branch.label, Arena.release, hnode.node?]
  refine ⟨hbelow.free _, ?_⟩
  rw [Branch.ids_node, Supply.give_append, ← hsupply]
  rfl

/-- Branches side by side are released one after another. -/
lemma Holds.releaseEach {a : Arena} {room : Nat} {q : Option NodeId} {rs : List Branch}
    {held : List (NodeId × Slot)} (h : a.Holds (slotsOf q rs ++ held))
    (hroom : (idsOf rs).length ≤ room) :
    ((rs.map Branch.label).foldl (Arena.release room) a).Holds held ∧
      ((rs.map Branch.label).foldl (Arena.release room) a).supply = a.supply.give (idsOf rs) := by
  cases rs with
  | nil => exact ⟨h, rfl⟩
  | cons r rs =>
    rw [Branch.idsOf_cons, List.length_append] at hroom
    rw [Branch.slotsOf_cons, List.append_assoc] at h
    obtain ⟨hfirst, hsupply⟩ := Holds.release h (show r.ids.length ≤ room by omega)
    obtain ⟨hlater, hsupply'⟩ := Holds.releaseEach hfirst (show (idsOf rs).length ≤ room by omega)
    refine ⟨hlater, ?_⟩
    rw [Branch.idsOf_cons, Supply.give_append, ← hsupply, ← hsupply']
    rfl

end

/-- No branch that is held has more nodes than an arena has room for. -/
lemma Holds.length_ids_le {q : Option NodeId} (h : a.Holds (r.slots q ++ held)) :
    r.ids.length ≤ a.room := by
  have hle := h.length_le
  have hids := (Branch.slots_ids q r).length_eq
  rw [List.length_map] at hids
  rw [List.length_append] at hle
  omega

/-- Branches are released one after another, each of them as it is taken out of the node above
it. -/
lemma Holds.releaseAll? {q : Option NodeId} (h : a.Holds (slotsOf q rs ++ held)) :
    ∃ a', a.releaseAll? (rs.map Branch.label) = some a' ∧ a'.Holds held ∧
      a'.supply = a.supply.give (idsOf rs) := by
  induction rs generalizing a with
  | nil => exact ⟨a, rfl, h, rfl⟩
  | cons r rs ih =>
    obtain ⟨n, data, children⟩ := r
    have hnode : a.Holds ((n, ⟨q, data, children.map Branch.label⟩) ::
        (slotsOf (some n) children ++ (slotsOf q rs ++ held))) := by
      simpa using h
    obtain ⟨a₁, e₁, h₁, hsupply₁⟩ := hnode.modify? fun s => { s with parent := none }
    have hbranch :
        a₁.Holds ((Branch.node n data children).slots none ++ (slotsOf q rs ++ held)) := by
      rw [Branch.slots_node]
      exact h₁
    obtain ⟨h₂, hsupply₂⟩ := hbranch.release hbranch.length_ids_le
    obtain ⟨a', e', h', hsupply'⟩ := ih h₂
    refine ⟨a', ?_, h', ?_⟩
    · rw [List.map_cons, Branch.label, Arena.releaseAll?, e₁, Option.bind_eq_bind,
        Option.bind_some]
      exact e'
    · rw [hsupply', hsupply₂, hsupply₁, Branch.idsOf_cons, Supply.give_append]

namespace Represents

/-- The branches that hang from a node are told apart by what they begin with. -/
lemma partition? {q : Option NodeId} (h : a.Holds held) (test : NodeData → Bool)
    (hrs : ∀ x ∈ slotsOf q rs, x ∈ held) :
    a.partition? test (rs.map Branch.label) =
      some ((rs.filter fun r => test r.data).map Branch.label,
        (rs.filter fun r => !test r.data).map Branch.label) := by
  induction rs with
  | nil => rfl
  | cons r rs ih =>
    obtain ⟨n, data, children⟩ := r
    simp only [Branch.slotsOf_cons, Branch.slots_node, List.cons_append, List.forall_mem_cons,
      List.forall_mem_append] at hrs
    obtain ⟨hnode, -, hlater⟩ := hrs
    simp only [List.map_cons, Branch.label, Arena.partition?, (h.node?_eq_some _ _).2 hnode,
      ih hlater, Option.bind_eq_bind, Option.bind_some, List.filter_cons, Branch.data]
    cases test data <;> rfl

/-- The branches that begin with a node for which a test holds are removed from the node from which
they hang. -/
lemma removeChildrenWhere? (h : a.Represents (C.plug (.node n data rs) :: rest))
    (test : NodeData → Bool) :
    ∃ a', a.removeChildrenWhere? n test = some a' ∧
      a'.Represents (C.plug (.node n data (rs.filter fun r => !test r.data)) :: rest) ∧
      a'.supply = a.supply.give (idsOf (rs.filter fun r => test r.data)) := by
  have hsplit := List.filter_append_perm (fun r : Branch => test r.data) rs
  have hnode : a.Holds ((n, ⟨C.above, data, rs.map Branch.label⟩) :: (slotsOf (some n) rs ++
      (C.slots n ++ slotsOf none rest))) := by
    simpa using h.holds_plug
  obtain ⟨a₁, e₁, h₁, hsupply₁⟩ := hnode.modify? fun s =>
    { s with children := (rs.filter fun r => !test r.data).map Branch.label }
  have hremoved : a₁.Holds (slotsOf (some n) (rs.filter fun r => test r.data) ++
      ((n, ⟨C.above, data, (rs.filter fun r => !test r.data).map Branch.label⟩) ::
        (slotsOf (some n) (rs.filter fun r => !test r.data) ++
          (C.slots n ++ slotsOf none rest)))) := by
    refine h₁.perm (List.perm_iff_count.2 fun x => ?_)
    have hcount := (Branch.slotsOf_perm (q := some n) hsplit).count_eq x
    simp only [Branch.slotsOf_append, List.count_append, List.count_cons] at hcount ⊢
    omega
  obtain ⟨a', e', h', hsupply'⟩ := hremoved.releaseAll?
  have hpartition := partition? h.holds_plug test
    (show ∀ x ∈ slotsOf (some n) rs, _ from fun x hx => by simp [hx])
  refine ⟨a', ?_, of_holds_plug (by simpa using h') ?_, hsupply'.trans (by rw [hsupply₁])⟩
  · simp only [Arena.removeChildrenWhere?, hnode.node?, hpartition, Option.bind_eq_bind,
      Option.bind_some, e₁, e']
  · rw [hsupply', hsupply₁]
    refine Supply.Sound.give (h.sound.perm ((ids_plug_perm C _ _).trans
      (List.perm_iff_count.2 fun x => ?_)))
    have hcount := (Branch.idsOf_perm hsplit).count_eq x
    simp only [Branch.ids_node, Branch.idsOf_append, List.count_append] at hcount ⊢
    omega

/-- Everything that hangs from a node is removed. -/
lemma removeChildren? (h : a.Represents (C.plug (.node n data rs) :: rest)) :
    ∃ a', a.removeChildren? n = some a' ∧ a'.Represents (C.plug (.node n data []) :: rest) ∧
      a'.supply = a.supply.give (idsOf rs) := by
  simpa [Arena.removeChildren?] using h.removeChildrenWhere? fun _ => true

/-- A branch that was taken out is removed. -/
lemma remove?_of_detach? (e : a.detach? r.label = some a') (h : a'.Represents (r :: rest)) :
    ∃ a₁, a.remove? r.label = some a₁ ∧ a₁.Represents rest ∧ a₁.supply = a'.supply.give r.ids := by
  have hholds : a'.Holds (r.slots none ++ slotsOf none rest) := Branch.slotsOf_cons _ _ _ ▸ h.holds
  obtain ⟨h₁, hsupply⟩ := hholds.release hholds.length_ids_le
  refine ⟨_, by rw [Arena.remove?, e]; rfl, ⟨h₁, ?_⟩, hsupply⟩
  rw [hsupply]
  exact Supply.Sound.give (Branch.idsOf_cons _ _ ▸ h.sound)

end Represents

end Arena

end TreeTemplate
