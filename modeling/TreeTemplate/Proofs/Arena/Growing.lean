import TreeTemplate.Proofs.Arena.Releasing

/-!
# New nodes in an arena

A new node gets the identity that the supply hands out. It begins a branch of its own, and is put
below another node from there.

A node is copied by copying the node alone, and then one after another the branches that hang from
it, each put below the first copy as soon as it is made. The copies get their identities in the
order in which the nodes are reached from above, those in use before stay as they are.

Main statements:

* `Represents.alloc`, `Represents.grow?` — a new node, alone and below another one;
* `Represents.cloneDeep?` — a copy of a branch.
-/

namespace TreeTemplate

namespace Branch

mutual

/-- A branch with other identities, handed out to each node before those that hang from it. -/
def copy (s : Supply) : Branch → Branch × Supply
  | node _ data children =>
    let (n, s) := s.take
    let (children, s) := copyAll s children
    (node n data children, s)

/-- Branches side by side with other identities. -/
def copyAll (s : Supply) : List Branch → List Branch × Supply
  | [] => ([], s)
  | r :: rs =>
    let (r, s) := r.copy s
    let (rs, s) := copyAll s rs
    (r :: rs, s)

end

end Branch

namespace Arena

open TreeTemplate.Branch (slotsOf idsOf)

variable {a : Arena} {n m : NodeId} {data leaf : NodeData} {r u : Branch} {rs us rest : List Branch}
  {C : Branch.Context}

namespace Represents

/-- A new node is a branch of its own. -/
lemma alloc (h : a.Represents rs) (leaf : NodeData) :
    ∃ a', a.alloc leaf = (a.supply.take.1, a') ∧
      a'.Represents (.node a.supply.take.1 leaf [] :: rs) ∧ a'.supply = a.supply.take.2 := by
  have hsupply := supply_alloc a leaf
  have hn : (a.alloc leaf).1 = a.supply.take.1 := congrArg Prod.fst hsupply
  have hs : (a.alloc leaf).2.supply = a.supply.take.2 := congrArg Prod.snd hsupply
  refine ⟨(a.alloc leaf).2, Prod.ext hn rfl, ⟨?_, ?_⟩, hs⟩
  · have hheld := h.holds.alloc (h.sound.perm (Branch.slotsOf_ids none rs).symm) leaf
    rw [hn] at hheld
    simpa using hheld
  · rw [hs]
    simpa using h.sound.take

/-- A new node is put behind those that hang from a node. -/
lemma grow? (h : a.Represents (C.plug (.node n data rs) :: rest)) (leaf : NodeData) :
    ∃ a', a.grow? n leaf = some (a.supply.take.1, a') ∧
      a'.Represents (C.plug (.node n data (rs ++ [.node a.supply.take.1 leaf []])) :: rest) ∧
      a'.supply = a.supply.take.2 := by
  obtain ⟨a₁, e₁, h₁, hsupply₁⟩ := h.alloc leaf
  obtain ⟨a₂, e₂, h₂, hsupply₂⟩ :=
    append?_of_detach? h₁.detach?_top (h₁.perm (List.Perm.swap ..))
  rw [Branch.label_node] at e₂
  refine ⟨a₂, ?_, h₂, hsupply₂.trans hsupply₁⟩
  rw [Arena.grow?, e₁]
  simp only [e₂, Option.bind_eq_bind, Option.bind_some]

/-- A copy that is made of a branch of the arena. -/
def Copies (a : Arena) (rs : List Branch) (room : Nat) (r : Branch) : Prop :=
  ∃ a', Arena.cloneDeep? room a r.label = some ((r.copy a.supply).1.label, a') ∧
    a'.Represents ((r.copy a.supply).1 :: rs) ∧ a'.supply = (r.copy a.supply).2

/-- Branches of the arena are copied one after another, each copy put below a node that begins a
branch of its own. -/
lemma foldlM_cloneDeep? {q : Option NodeId} {room : Nat} {done : List Branch}
    (hcopies : ∀ u ∈ us, ∀ (a : Arena) (rs : List Branch), a.Represents rs →
      (∀ x ∈ u.slots q, x ∈ slotsOf none rs) → Copies a rs room u)
    (h : a.Represents (.node m data done :: rs)) (hus : ∀ x ∈ slotsOf q us, x ∈ slotsOf none rs) :
    ∃ a', (us.map Branch.label).foldlM (fun a child => do
        let (below, a) ← Arena.cloneDeep? room a child
        a.append? m below) a = some a' ∧
      a'.Represents (.node m data (done ++ (Branch.copyAll a.supply us).1) :: rs) ∧
      a'.supply = (Branch.copyAll a.supply us).2 := by
  induction us generalizing a done with
  | nil => exact ⟨a, rfl, by simpa [Branch.copyAll] using h, rfl⟩
  | cons u us ih =>
    obtain ⟨hu, hlater⟩ := List.forall_mem_cons.1 hcopies
    rw [Branch.slotsOf_cons, List.forall_mem_append] at hus
    obtain ⟨a₁, e₁, h₁, hsupply₁⟩ := hu a _ h fun x hx => by simp [hus.1 x hx]
    have hbelow : a₁.Represents (Branch.Context.top.plug (.node m data done) ::
        (u.copy a.supply).1 :: rs) := h₁.perm (List.Perm.swap ..)
    obtain ⟨a₂, e₂, h₂, hsupply₂⟩ := append?_of_detach? h₁.detach?_top hbelow
    have hsupply := hsupply₂.trans hsupply₁
    obtain ⟨a', e', h', hsupply'⟩ := ih hlater h₂ hus.2
    rw [hsupply] at h' hsupply'
    refine ⟨a', ?_, by simpa [Branch.copyAll] using h', hsupply'⟩
    rw [List.map_cons, List.foldlM_cons, e₁]
    simp only [Option.bind_eq_bind, Option.bind_some, e₂]
    exact e'

/-- A branch of the arena is copied. -/
lemma cloneDeep? {q : Option NodeId} {room : Nat} (h : a.Represents rs)
    (hr : ∀ x ∈ r.slots q, x ∈ slotsOf none rs) (hroom : r.ids.length ≤ room) :
    Copies a rs room r := by
  induction room generalizing a r rs q with
  | zero =>
    have := List.length_pos_of_mem (Branch.label_mem_ids r)
    omega
  | succ room ih =>
    obtain ⟨n, data, children⟩ := r
    rw [Branch.slots_node, List.forall_mem_cons] at hr
    obtain ⟨hnode, hchildren⟩ := hr
    have hn := (h.holds.node?_eq_some n _).2 hnode
    obtain ⟨a₁, e₁, h₁, hsupply₁⟩ := h.alloc data
    -- the node that is copied is still there when its copy has been made
    have hn₁ := (h₁.holds.node?_eq_some n _).2 (by
      rw [Branch.slotsOf_cons]
      exact List.mem_append_right _ hnode)
    have hbelow : ∀ u ∈ children, ∀ (a : Arena) (rs : List Branch), a.Represents rs →
        (∀ x ∈ u.slots (some n), x ∈ slotsOf none rs) → Copies a rs room u := by
      intro u hu a rs h hx
      refine ih h hx ?_
      obtain ⟨before, after, rfl⟩ := List.append_of_mem hu
      simp only [Branch.ids_node, Branch.idsOf_append, Branch.idsOf_cons, List.length_append,
        List.length_singleton] at hroom
      omega
    obtain ⟨a', e', h', hsupply'⟩ := foldlM_cloneDeep? hbelow h₁ hchildren
    rw [hsupply₁] at h' hsupply'
    refine ⟨a', ?_, h', hsupply'⟩
    simp only [Branch.label_node, Arena.cloneDeep?, hn, e₁, hn₁, Option.bind_eq_bind,
      Option.bind_some]
    simp only [Option.bind_eq_bind] at e'
    rw [e']
    rfl

/-- A node is copied, with or without what hangs from it. -/
lemma clone? (h : a.Represents (C.plug (.node n data rs) :: rest)) (deep : Bool) :
    let copied : Branch × Supply :=
      (Branch.node n data (if deep then rs else [])).copy a.supply
    ∃ a', a.clone? n deep = some (copied.1.label, a') ∧
      a'.Represents (copied.1 :: C.plug (.node n data rs) :: rest) ∧ a'.supply = copied.2 := by
  cases deep with
  | true =>
    have hslots : ∀ x ∈ (Branch.node n data rs).slots C.above,
        x ∈ slotsOf none (C.plug (.node n data rs) :: rest) := fun x hx => by
      rw [Branch.slotsOf_cons]
      exact List.mem_append_left _
        ((Branch.slots_plug C (.node n data rs)).mem_iff.2 (List.mem_append_left _ hx))
    have hroom : (Branch.node n data rs).ids.length ≤ a.room := h.holds_plug.length_ids_le
    exact h.cloneDeep? hslots hroom
  | false =>
    obtain ⟨a', e, h', hsupply⟩ := h.alloc data
    refine ⟨a', ?_, h', hsupply⟩
    have hnode := h.node?_plug
    simp only [Branch.label_node] at hnode
    simp only [Arena.clone?, hnode, Branch.data, Option.map_some, e, Bool.false_eq_true, if_false]
    rfl

end Represents

end Arena

end TreeTemplate
