import TreeTemplate.Proofs.Arena.Branches

/-!
# Links in an arena

An arena that represents branches holds their slots and nothing else, and its slots are given out
soundly. What an operation does is said of the branches: the one that is worked on is in front and
written as a filled context, and the others are in any order.

Main statements:

* `Represents.change?`, `Represents.detach?`, `Represents.link?` — a node that is changed, taken
  out or put in;
* `Represents.exists_plug` — every node of the arena fills a context in one of the branches.
-/

namespace TreeTemplate.Arena

open TreeTemplate.Branch (slotsOf idsOf)

variable {a a' : Arena} {n m p : NodeId} {s : Slot} {data : NodeData} {r u : Branch}
  {rs us before after rest : List Branch} {C : Branch.Context} {held : List (NodeId × Slot)}

/-- The arena holds the slots of the given branches, which have no node above them, and no other
identity is in use. -/
structure Represents (a : Arena) (rs : List Branch) : Prop where
  holds : a.Holds (slotsOf none rs)
  sound : a.supply.Sound (idsOf rs)

namespace Represents

/-- The order of the branches does not matter. -/
lemma perm (h : a.Represents rs) (hp : rs.Perm us) : a.Represents us where
  holds := h.holds.perm (Branch.slotsOf_perm hp)
  sound := h.sound.perm (Branch.idsOf_perm hp)

/-- No two nodes of the branches share an identity. -/
lemma nodup (h : a.Represents rs) : (idsOf rs).Nodup :=
  h.sound.nodup

/-- A node is there when it belongs to one of the branches. -/
lemma node?_isSome (h : a.Represents rs) : (a.node? n).isSome ↔ n ∈ idsOf rs := by
  rw [h.holds.node?_isSome, (Branch.slotsOf_ids none rs).mem_iff]

/-- Every node of the arena fills a context in one of the branches. -/
lemma exists_plug (h : a.Represents rs) (hn : (a.node? n).isSome) :
    ∃ (C : Branch.Context) (r : Branch) (rest : List Branch),
      a.Represents (C.plug r :: rest) ∧ r.label = n ∧ (C.plug r :: rest).Perm rs := by
  obtain ⟨before, C, r, after, rfl, hr⟩ := Branch.exists_plugOf (h.node?_isSome.1 hn)
  have hp : (C.plug r :: (before ++ after)).Perm (before ++ C.plug r :: after) :=
    List.perm_middle.symm
  exact ⟨C, r, before ++ after, h.perm hp.symm, hr, hp⟩

/-- The slots of an arena whose first branch is a filled context, those of what fills it first. -/
lemma holds_plug (h : a.Represents (C.plug r :: rest)) :
    a.Holds (r.slots C.above ++ (C.slots r.label ++ slotsOf none rest)) := by
  have hp := (Branch.slots_plug C r).append_right (slotsOf none rest)
  rw [List.append_assoc] at hp
  exact (Branch.slotsOf_cons none (C.plug r) rest ▸ h.holds).perm hp

/-- What a slot holds where a node fills a context. -/
lemma node?_plug (h : a.Represents (C.plug r :: rest)) :
    a.node? r.label = some ⟨C.above, r.data, r.children.map Branch.label⟩ := by
  cases r with
  | node n data children => exact (Branch.slots_node _ _ _ _ ▸ h.holds_plug).node?

/-- The identities of a filled context and of the other branches. -/
lemma ids_plug_perm (C : Branch.Context) (r : Branch) (rest : List Branch) :
    (idsOf (C.plug r :: rest)).Perm (r.ids ++ (C.ids ++ idsOf rest)) := by
  rw [Branch.idsOf_cons, ← List.append_assoc]
  exact (Branch.ids_plug C r).append_right _

/-- An arena represents a filled context where it holds its slots. -/
lemma of_holds_plug (h : a.Holds (r.slots C.above ++ (C.slots r.label ++ slotsOf none rest)))
    (hs : a.supply.Sound (r.ids ++ (C.ids ++ idsOf rest))) : a.Represents (C.plug r :: rest) where
  holds := by
    have hp := (Branch.slots_plug C r).append_right (slotsOf none rest)
    rw [List.append_assoc] at hp
    exact Branch.slotsOf_cons none (C.plug r) rest ▸ h.perm hp.symm
  sound := hs.perm (ids_plug_perm C r rest).symm

/-- Branches below a node are in the arena under different identities. -/
lemma nodup_children (h : a.Represents (C.plug (.node n data rs) :: rest)) :
    (rs.map Branch.label).Nodup ∧ n ∉ idsOf rs := by
  have hnodup := (ids_plug_perm C (.node n data rs) rest).nodup_iff.1 h.nodup
  rw [Branch.ids_node] at hnodup
  have hids := (List.nodup_append.1 hnodup).1
  refine ⟨(List.nodup_append.1 hids).1.sublist (Branch.map_label_sublist rs), fun hn => ?_⟩
  exact (List.nodup_append.1 hids).2.2 n hn n (List.mem_singleton_self n) rfl

/-! ## Changing a node -/

/-- What a node is can be changed. -/
lemma change? (h : a.Represents (C.plug (.node n data rs) :: rest)) (f : Tree Unit → Tree Unit) :
    ∃ a', a.change? n f = some a' ∧ a'.Represents (C.plug (.node n (data.map f) rs) :: rest) ∧
      a'.supply = a.supply := by
  obtain ⟨a', e, h', hsupply⟩ := (Branch.slots_node _ _ _ _ ▸ h.holds_plug).modify?
    fun s => { s with data := s.data.map f }
  refine ⟨a', e, of_holds_plug ?_ ?_, hsupply⟩
  · rw [Branch.slots_node]
    exact h'
  · rw [hsupply]
    exact h.sound.perm (ids_plug_perm C _ rest)

/-! ## Taking nodes out and putting them in -/

/-- A node without a parent is not taken out of anything. -/
lemma detach?_top (h : a.Represents (r :: rest)) : a.detach? r.label = some a := by
  have hnode := (show a.Represents (Branch.Context.top.plug r :: rest) from h).node?_plug
  simp [Arena.detach?, hnode, Branch.Context.above]

/-- A branch is taken out of the node that it hangs from. -/
lemma detach? (h : a.Represents (C.plug (.node n data (before ++ r :: after)) :: rest)) :
    ∃ a', a.detach? r.label = some a' ∧
      a'.Represents (C.plug (.node n data (before ++ after)) :: r :: rest) ∧
      a'.supply = a.supply := by
  obtain ⟨m, mdata, children⟩ := r
  -- the other branches that hang from the node do not begin with the one that is taken out
  have hfilter : ((before ++ .node m mdata children :: after).map Branch.label).filter
      (fun c => c ≠ m) = (before ++ after).map Branch.label := by
    have hnodup := h.nodup_children.1
    simp only [List.map_append, List.map_cons, Branch.label] at hnodup ⊢
    rw [List.nodup_middle, List.nodup_cons, List.mem_append, not_or] at hnodup
    obtain ⟨⟨hbefore, hafter⟩, -⟩ := hnodup
    rw [List.filter_append, List.filter_cons_of_neg (by simp),
      List.filter_eq_self.2 fun c hc => by simpa using fun e : c = m => hbefore (e ▸ hc),
      List.filter_eq_self.2 fun c hc => by simpa using fun e : c = m => hafter (e ▸ hc)]
  let others := slotsOf (some m) children ++ (slotsOf (some n) before ++ slotsOf (some n) after) ++
    (C.slots n ++ slotsOf none rest)
  have hchild : a.Holds ((m, ⟨some n, mdata, children.map Branch.label⟩) ::
      (n, ⟨C.above, data, (before ++ .node m mdata children :: after).map Branch.label⟩) ::
        others) := by
    refine h.holds_plug.perm (List.perm_iff_count.2 fun x => ?_)
    simp only [others, Branch.slots_node, Branch.slotsOf_append, Branch.slotsOf_cons, Branch.label,
      List.count_append, List.count_cons]
    omega
  have hparent := (hchild.put ⟨none, mdata, children.map Branch.label⟩).perm (List.Perm.swap ..)
  obtain ⟨a', e, h', hsupply⟩ :=
    hparent.modify? fun s => { s with children := s.children.filter (· ≠ m) }
  rw [supply_put] at hsupply
  refine ⟨a', ?_, of_holds_plug (h'.perm (List.perm_iff_count.2 fun x => ?_)) ?_, hsupply⟩
  · simp only [Arena.detach?, Branch.label, hchild.node?, Option.bind_eq_bind, Option.bind_some]
    exact e
  · simp only [others, hfilter, Branch.slots_node, Branch.slotsOf_append, Branch.slotsOf_cons,
      Branch.label, List.count_append, List.count_cons]
    omega
  · rw [hsupply]
    refine h.sound.perm ((ids_plug_perm C _ rest).trans (List.perm_iff_count.2 fun x => ?_))
    simp only [Branch.ids_node, Branch.idsOf_append, Branch.idsOf_cons, List.count_append,
      List.count_cons, List.count_nil]
    omega

/-- A branch that has no node above it is put behind those that hang from a node. -/
lemma link? (h : a.Represents (C.plug (.node n data rs) :: r :: rest)) :
    ∃ a', a.link? n r.label = some a' ∧
      a'.Represents (C.plug (.node n data (rs ++ [r])) :: rest) ∧ a'.supply = a.supply := by
  obtain ⟨m, mdata, children⟩ := r
  let others := slotsOf (some m) children ++ slotsOf (some n) rs ++
    (C.slots n ++ slotsOf none rest)
  have hchild : a.Holds ((m, ⟨none, mdata, children.map Branch.label⟩) ::
      (n, ⟨C.above, data, rs.map Branch.label⟩) :: others) := by
    refine h.holds_plug.perm (List.perm_iff_count.2 fun x => ?_)
    simp only [others, Branch.slots_node, Branch.slotsOf_cons, Branch.label, List.count_append,
      List.count_cons]
    omega
  obtain ⟨a₁, e₁, h₁, hsupply₁⟩ := hchild.modify? fun s => { s with parent := some n }
  obtain ⟨a₂, e₂, h₂, hsupply₂⟩ :=
    (h₁.perm (List.Perm.swap ..)).modify? fun s => { s with children := s.children ++ [m] }
  have hsupply := hsupply₂.trans hsupply₁
  refine ⟨a₂, ?_, of_holds_plug (h₂.perm (List.perm_iff_count.2 fun x => ?_)) ?_, hsupply⟩
  · simp only [Arena.link?, Branch.label, e₁, Option.bind_eq_bind, Option.bind_some, e₂]
  · simp only [others, Branch.slots_node, Branch.slotsOf_append, Branch.slotsOf_cons,
      Branch.slotsOf_nil, Branch.label, List.map_append, List.map_cons, List.map_nil,
      List.count_append, List.count_cons, List.count_nil]
    omega
  · rw [hsupply]
    refine h.sound.perm ((ids_plug_perm C _ _).trans (List.perm_iff_count.2 fun x => ?_))
    simp only [Branch.ids_node, Branch.idsOf_append, Branch.idsOf_cons, Branch.idsOf_nil,
      List.count_append, List.count_cons, List.count_nil]
    omega

/-- A branch that was taken out is put below a node of another one. -/
lemma append?_of_detach? (e : a.detach? r.label = some a')
    (h : a'.Represents (C.plug (.node n data rs) :: r :: rest)) :
    ∃ a₁, a.append? n r.label = some a₁ ∧
      a₁.Represents (C.plug (.node n data (rs ++ [r])) :: rest) ∧ a₁.supply = a'.supply := by
  obtain ⟨a₁, e₁, h₁, hsupply⟩ := h.link?
  exact ⟨a₁, by rw [Arena.append?, e, Option.bind_eq_bind, Option.bind_some, e₁], h₁, hsupply⟩

end Represents

end TreeTemplate.Arena
