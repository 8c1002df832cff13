import TreeTemplate.Proofs.Arena.Operations
import TreeTemplate.Proofs.Documents.Operations

/-!
# Arenas and forests

As long as nothing is put below a text an arena holds a forest: the trees of a `Document`, which has
the same identities in use and the same ones free. Every operation leads from an arena that holds a
forest to one that holds the forest to which the operation leads there. So what is found in the
slots of the arena is what is found in the forest, after any number of operations.

The operations of a forest take trees in one piece where those of an arena go from slot to slot: a
branch is copied node by node, released from below, and markup is read event by event.

Main statements:

* `Refines.node?_eq` — what is in the slots of an arena that holds a forest;
* `Refines.run?` — an operation on an arena and on the forest that it holds;
* `Refines.document?`, `refines_arena` — from an arena to its forest and back.
-/

namespace TreeTemplate

open TreeTemplate.Branch (idsOf slotsOf)
open TreeTemplate.Tree (branches releasedOf)

/-! ## Trees as branches -/

namespace Tree

variable {t : Tree NodeId} {ts us : List (Tree NodeId)}

/-- A tree as a branch begins with the same identity. -/
@[simp]
lemma label_branch (t : Tree NodeId) : t.branch.label = t.label := by
  cases t <;> rfl

/-- A tree as a branch begins with the node at its top. -/
@[simp]
lemma data_branch (t : Tree NodeId) : t.branch.data = NodeData.ofTree t := by
  cases t <;> rfl

/-- A tree as a branch, by what it begins with. -/
lemma branch_eq (t : Tree NodeId) :
    t.branch = .node t.label (NodeData.ofTree t) (branches t.children) := by
  cases t <;> rfl

/-- Several trees as branches begin with the same identities. -/
@[simp]
lemma map_label_branches (ts : List (Tree NodeId)) :
    (branches ts).map Branch.label = ts.map label := by
  simp [branches_eq_map, Function.comp_def]

/-- No trees are no branches. -/
@[simp]
lemma branches_nil : branches [] = [] := rfl

/-- The first of several trees is the first of the branches. -/
@[simp]
lemma branches_cons (t : Tree NodeId) (ts : List (Tree NodeId)) :
    branches (t :: ts) = t.branch :: branches ts := rfl

/-- The branches of several trees are those of the first ones and those of the others. -/
@[simp]
lemma branches_append (ts us : List (Tree NodeId)) :
    branches (ts ++ us) = branches ts ++ branches us := by
  simp [branches_eq_map]

/-- Trees in another order are branches in another order. -/
lemma branches_perm (h : ts.Perm us) : (branches ts).Perm (branches us) := by
  simpa [branches_eq_map] using h.map branch

mutual

/-- The identities of a tree are those of the branch. -/
lemma ids_branch : ∀ t : Tree NodeId, t.branch.ids = t.released
  | .element n tag attrs hidden children => by
    rw [branch, Branch.ids_node, idsOf_branches children, released]
  | .text n content => rfl

/-- The identities of several trees are those of the branches. -/
lemma idsOf_branches : ∀ ts : List (Tree NodeId), idsOf (branches ts) = releasedOf ts
  | [] => rfl
  | t :: ts => by rw [branches, Branch.idsOf_cons, ids_branch t, idsOf_branches ts, releasedOf]

end

mutual

/-- A tree that is planted once more is a copied branch. -/
lemma copy_branch (s : Supply) :
    ∀ t : Tree NodeId, t.branch.copy s = ((s.plant t).1.branch, (s.plant t).2)
  | .element n tag attrs hidden children => by
    simp only [branch, Branch.copy, Supply.plant, copyAll_branches s.take.2 children]
  | .text n content => rfl

/-- Several trees are copied as branches as they are planted. -/
lemma copyAll_branches (s : Supply) :
    ∀ ts : List (Tree NodeId),
      Branch.copyAll s (branches ts) = (branches (s.plantAll ts).1, (s.plantAll ts).2)
  | [] => rfl
  | t :: ts => by
    simp only [branches, Branch.copyAll, Supply.plantAll, copy_branch s t,
      copyAll_branches (s.plant t).2 ts]

end

/-- What is around a hole, as what is around a branch. -/
def Context.branch : Context → Branch.Context
  | top => .top
  | inside outer n tag attrs hidden before after =>
    .inside outer.branch n (.element tag attrs hidden) (branches before) (branches after)

/-- A tree in a context is a branch in the context. -/
lemma branch_plug (C : Context) (t : Tree NodeId) : (C.plug t).branch = C.branch.plug t.branch := by
  induction C generalizing t with
  | top => rfl
  | inside outer n tag attrs hidden before after ih =>
    rw [Context.plug, ih]
    simp [branch, Context.branch, Branch.Context.plug]

end Tree

namespace Supply

mutual

/-- Labels do not count for what is planted. -/
lemma plant_relabel {ι κ : Type} (s : Supply) (f : ι → κ) (t : Tree ι) :
    s.plant (t.relabel f) = s.plant t := by
  cases t with
  | element label tag attrs hidden children =>
    simp only [Tree.relabel, plant, plantAll_relabelAll s.take.2 f children]
  | text label content => rfl

/-- The labels that trees had do not matter when they are planted. -/
lemma plantAll_relabelAll {ι κ : Type} (s : Supply) (f : ι → κ) (ts : List (Tree ι)) :
    s.plantAll (Tree.relabelAll f ts) = s.plantAll ts := by
  cases ts with
  | nil => rfl
  | cons t ts =>
    simp only [Tree.relabelAll, plantAll, plant_relabel s f t, plantAll_relabelAll _ f ts]

end

end Supply

/-! ## Changes of a node -/

namespace NodeData

variable {ι : Type}

/-- Other attributes of a tree are other attributes of the node at its top. -/
lemma ofTree_mapAttrs (t : Tree ι) (g : List (String × String) → List (String × String)) :
    ofTree (t.mapAttrs g) = (ofTree t).map (·.mapAttrs g) := by
  cases t <;> rfl

/-- A class that a tree gets is one that the node at its top gets. -/
lemma ofTree_addClass (t : Tree ι) (name : String) :
    ofTree (t.addClass name) = (ofTree t).map (·.addClass name) := by
  have hclasses : (ofTree t).alone.classes = t.classes := by cases t <;> rfl
  rw [map, Tree.addClass, Tree.addClass, hclasses]
  split <;> cases t <;> rfl

/-- A class that a tree loses is one that the node at its top loses. -/
lemma ofTree_removeClass (t : Tree ι) (name : String) :
    ofTree (t.removeClass name) = (ofTree t).map (·.removeClass name) := by
  have hattr : (ofTree t).alone.attr? "class" = t.attr? "class" := by cases t <;> rfl
  have hclasses : (ofTree t).alone.classes = t.classes := by cases t <;> rfl
  rw [map, Tree.removeClass, Tree.removeClass, hattr, hclasses]
  split
  · cases t <;> rfl
  · dsimp only
    split <;> cases t <;> rfl

/-- A tree is hidden or shown where the node at its top is. -/
lemma ofTree_setHidden (t : Tree ι) (hidden : Bool) :
    ofTree (t.setHidden hidden) = (ofTree t).map (·.setHidden hidden) := by
  cases t <;> rfl

end NodeData

/-- What an arena holds for the nodes of a forest are the slots of its trees. -/
lemma Document.Has.slot?_eq_some {d : Document} (h : d.Has d.trees) (n : NodeId) (s : Slot) :
    d.slot? n = some s ↔ (n, s) ∈ slotsOf none (branches d.trees) := by
  have hslot {t : Tree NodeId} (hn : d.find? n = some t) :
      ∃ s, d.slot? n = some s ∧ (n, s) ∈ slotsOf none (branches d.trees) := by
    obtain ⟨C, rest, hp, h', rfl⟩ := h.exists_plug hn
    have hparent : d.parent? t.label = C.branch.above := by
      cases C with
      | top => exact h'.parent?_top
      | inside outer m tag attrs hidden before after =>
        exact (show d.Has (outer.plug (.element m tag attrs hidden (before ++ t :: after)) :: rest)
          from h').parent?
    refine ⟨_, by rw [Document.slot?, hn, Option.map_some], ?_⟩
    rw [(Branch.slotsOf_perm (Tree.branches_perm hp.symm)).mem_iff, Tree.branches_cons,
      Branch.slotsOf_cons, Tree.branch_plug, List.mem_append, (Branch.slots_plug _ _).mem_iff,
      List.mem_append, hparent, Tree.branch_eq]
    simp
  refine ⟨fun e => ?_, fun hmem => ?_⟩
  · obtain ⟨t, hn, -⟩ := Option.map_eq_some_iff.1 e
    obtain ⟨s', hs', hmem⟩ := hslot hn
    exact Option.some.inj (hs'.symm.trans e) ▸ hmem
  · have hids := Branch.slotsOf_ids none (branches d.trees)
    rw [Tree.idsOf_branches] at hids
    obtain ⟨t, hn⟩ := Option.isSome_iff_exists.1
      (h.find?_isSome.2 (hids.mem_iff.1 (List.mem_map_of_mem hmem)))
    obtain ⟨s', hs', hmem'⟩ := hslot hn
    have hsame := List.inj_on_of_nodup_map (hids.nodup_iff.2 h.sound.nodup) hmem hmem' rfl
    rw [hs', (Prod.mk.inj hsame).2]

/-! ## Arenas that hold a forest -/

namespace Arena

variable {a a' : Arena} {d d' : Document} {n p : NodeId} {t : Tree NodeId}
  {ts rest : List (Tree NodeId)} {C : Tree.Context}

/-- An arena holds the trees of a forest, and the same identities are free. -/
structure Refines (a : Arena) (d : Document) : Prop where
  represents : a.Represents (branches d.trees)
  supply : a.supply = d.supply

namespace Refines

/-- The order of the trees does not matter. -/
lemma of_perm (h : a.Represents (branches ts)) (hp : d.trees.Perm ts) (hs : a.supply = d.supply) :
    a.Refines d :=
  ⟨h.perm (Tree.branches_perm hp.symm), hs⟩

/-- The trees of a forest that is held have different identities, and the others are free. -/
lemma has (h : a.Refines d) : d.Has d.trees := by
  refine ⟨.refl _, ?_⟩
  rw [← h.supply, ← Tree.idsOf_branches]
  exact h.represents.sound

/-- A node of the forest fills a context in the arena. -/
lemma exists_plug (h : a.Refines d) (hn : d.find? n = some t) :
    ∃ (C : Tree.Context) (rest : List (Tree NodeId)), d.Has (C.plug t :: rest) ∧
      a.Represents (C.branch.plug t.branch :: branches rest) ∧ t.label = n := by
  obtain ⟨C, rest, hp, h', hl⟩ := h.has.exists_plug hn
  refine ⟨C, rest, h', ?_, hl⟩
  have hrep := h.represents.perm (Tree.branches_perm hp.symm)
  rwa [Tree.branches_cons, Tree.branch_plug] at hrep

/-- What is in the slots of an arena is what the forest has under their identities. -/
theorem node?_eq (h : a.Refines d) (n : NodeId) : a.node? n = d.slot? n :=
  Option.ext fun s => (h.represents.holds.node?_eq_some n s).trans (h.has.slot?_eq_some n s).symm

/-- There are as many nodes in an arena as in the forest. -/
lemma nodeCount_eq (h : a.Refines d) : a.nodeCount = d.nodeCount :=
  congrArg Supply.inUse h.supply

/-! ## Operations -/

/-- A change of a node in an arena and in the forest. -/
lemma change? (h : a.Refines d) (hn : (d.find? n).isSome) {f : Tree Unit → Tree Unit}
    {g : Tree NodeId → Tree NodeId} (hg : Tree.RestylesOnly g)
    (hdata : ∀ t, NodeData.ofTree (g t) = (NodeData.ofTree t).map f) :
    ∃ a' d', a.change? n f = some a' ∧ d.update? n g = some d' ∧ a'.Refines d' := by
  obtain ⟨t, hn⟩ := Option.isSome_iff_exists.1 hn
  obtain ⟨C, rest, h', hrep, rfl⟩ := h.exists_plug hn
  rw [Tree.branch_eq t] at hrep
  obtain ⟨a', e, hrep', hsupply⟩ := hrep.change? f
  obtain ⟨trees, e', hp⟩ := h'.update?_trees (f := g)
  refine ⟨a', _, e, e', of_perm ?_ hp (hsupply.trans h.supply)⟩
  rwa [Tree.branches_cons, Tree.branch_plug, Tree.branch_eq (g t), hdata, (hg.restyles t).label,
    hg.children]

/-- A node is taken out in an arena and in the forest. -/
lemma detach? (h : a.Refines d) (hn : d.find? n = some t) :
    ∃ a' d' rest, a.detach? n = some a' ∧ d.detach? n = some d' ∧ a'.Refines d' ∧
      d'.Has (t :: rest) := by
  obtain ⟨C, rest, h', hrep, rfl⟩ := h.exists_plug hn
  cases C with
  | top =>
    obtain ⟨d', e', hd'⟩ := h'.detach?_top
    have e := hrep.detach?_top
    obtain ⟨left, rfl, -, -⟩ := hd'.takeIn?_detach? e'
    rw [show (Tree.Context.top.branch.plug t.branch).label = t.label from t.label_branch] at e
    exact ⟨a, _, rest, e, e', of_perm (by exact hrep) hd'.trees h.supply, hd'⟩
  | inside outer m tag attrs hidden before after =>
    have hmid : d.Has (outer.plug (.element m tag attrs hidden (before ++ t :: after)) ::
        rest) := h'
    obtain ⟨d', e', hd'⟩ := hmid.detach?
    have htop := hd'.perm (List.Perm.swap ..)
    obtain ⟨left, rfl, -, -⟩ := htop.takeIn?_detach? e'
    have hbranch : a.Represents (outer.branch.plug (.node m (.element tag attrs hidden)
        (branches before ++ t.branch :: branches after)) :: branches rest) := hrep
    obtain ⟨a', e, hrep', hsupply⟩ := hbranch.detach?
    rw [Tree.label_branch] at e
    refine ⟨a', _, _, e, e', of_perm ?_ hd'.trees (hsupply.trans h.supply), htop⟩
    rw [Tree.branches_cons, Tree.branch_plug]
    simpa [Tree.branch] using hrep'

/-- A node is removed from an arena and from the forest. -/
lemma remove? (h : a.Refines d) (hn : d.find? n = some t) :
    ∃ a' d', a.remove? n = some a' ∧ d.remove? n = some d' ∧ a'.Refines d' := by
  obtain ⟨a₁, d₁, rest, e, e', h₁, htop⟩ := h.detach? hn
  obtain rfl : t.label = n := Tree.findIn?_label hn
  obtain ⟨left, rfl, htake, -⟩ := htop.takeIn?_detach? e'
  have hrep := h₁.represents.perm (Tree.branches_perm htop.trees)
  rw [Tree.branches_cons] at hrep
  obtain ⟨a', e₁, hrep', hsupply⟩ := Represents.remove?_of_detach? (r := t.branch)
    (by rw [Tree.label_branch]; exact e) hrep
  rw [Tree.label_branch] at e₁
  have hp : left.Perm rest :=
    ((List.perm_append_singleton t left).symm.trans htop.trees).cons_inv
  refine ⟨a', ⟨left, d.supply.give t.released⟩, e₁, ?_, of_perm hrep' hp ?_⟩
  · rw [Document.remove?, htake]
    rfl
  · rw [hsupply, h₁.supply, Tree.ids_branch]

/-- A node is put below an element in an arena and in the forest. -/
lemma append? {q : Tree NodeId} (h : a.Refines d) (hn : d.find? n = some t)
    (hp : d.find? p = some q) (hq : q.isElement = true) (hbelow : t.find? p = none) :
    ∃ a' d', a.append? p n = some a' ∧ d.append? p n = some d' ∧ a'.Refines d' := by
  obtain ⟨a₁, d₁, rest, e, e', h₁, htop⟩ := h.detach? hn
  obtain rfl : t.label = n := Tree.findIn?_label hn
  obtain ⟨C, tag, attrs, hidden, children, others, hothers⟩ :=
    htop.exists_plug_detach? e' hp hq hbelow
  have hplug := htop.perm (hothers.cons t)
  obtain ⟨d', e₁', hd'⟩ := hplug.append?
  have hrep := h₁.represents.perm (Tree.branches_perm (hplug.trees.trans (List.Perm.swap ..)))
  simp only [Tree.branches_cons, Tree.branch_plug, Tree.branch] at hrep
  obtain ⟨a', e₁, hrep', hsupply⟩ := Represents.append?_of_detach? (r := t.branch)
    (by rw [Tree.label_branch]; exact e) hrep
  rw [Tree.label_branch] at e₁
  refine ⟨a', d', e₁, (htop.append?_detach? e' p).trans e₁', of_perm ?_ hd'.trees ?_⟩
  · simpa [Tree.branch_plug, Tree.branch] using hrep'
  · rw [hsupply, h₁.supply, Document.supply_append? e₁']

/-- Children are removed from a node of an arena and of the forest. -/
lemma removeChildrenWhere? (h : a.Refines d) (hn : d.find? n = some t)
    {test : NodeData → Bool} {test' : Tree NodeId → Bool}
    (htest : ∀ u, test' u = test (NodeData.ofTree u)) :
    ∃ a' d', a.removeChildrenWhere? n test = some a' ∧ d.removeChildrenWhere? n test' = some d' ∧
      a'.Refines d' := by
  obtain ⟨C, rest, h', hrep, rfl⟩ := h.exists_plug hn
  rw [Tree.branch_eq t] at hrep
  obtain ⟨a', e, hrep', hsupply⟩ := hrep.removeChildrenWhere? test
  have hfilter (keep : Bool → Bool) : (branches t.children).filter (fun r => keep (test r.data)) =
      branches (t.children.filter fun u => keep (test' u)) := by
    simp [Tree.branches_eq_map, List.filter_map, Function.comp_def, htest]
  have hremoved := hfilter id
  simp only [id] at hremoved
  rw [hfilter not] at hrep'
  rw [hremoved, Tree.idsOf_branches] at hsupply
  obtain ⟨trees, e', hp⟩ := h'.update?_trees
    (f := fun u => u.setChildren (t.children.filter fun u => !test' u))
  refine ⟨a', ⟨trees, d.supply.give (releasedOf (t.children.filter test'))⟩, e, ?_,
    of_perm ?_ hp (by rw [hsupply, h.supply])⟩
  · simp only [Document.removeChildrenWhere?, hn, Option.bind_eq_bind, Option.bind_some,
      List.partition_eq_filter_filter]
    rw [show (not ∘ test') = fun u => !test' u from rfl, e']
    rfl
  · rw [Tree.branches_cons, Tree.branch_plug]
    cases t <;> exact hrep'

/-- Everything below a node is removed from an arena and from the forest. -/
lemma removeChildren? (h : a.Refines d) (hn : d.find? n = some t) :
    ∃ a' d', a.removeChildren? n = some a' ∧ d.removeChildren? n = some d' ∧ a'.Refines d' :=
  h.removeChildrenWhere? hn fun _ => rfl

/-- A node is copied in an arena and in the forest. -/
lemma clone? (h : a.Refines d) (hn : d.find? n = some t) (deep : Bool) :
    ∃ copy a' d', a.clone? n deep = some (copy, a') ∧ d.clone? n deep = some (copy, d') ∧
      a'.Refines d' := by
  obtain ⟨C, rest, h', hrep, rfl⟩ := h.exists_plug hn
  have hplant (u : Tree NodeId) (hu : u.branch = .node t.label (NodeData.ofTree t)
      (if deep then branches t.children else [])) :
      ∃ a', a.clone? t.label deep = some ((d.supply.plant u).1.label, a') ∧
        a'.Refines (d.plant u).2 := by
    obtain ⟨a', e, hrep', hsupply⟩ := (Tree.branch_eq t ▸ hrep).clone? deep
    rw [← hu, h.supply, Tree.copy_branch, Tree.label_branch] at e
    rw [← hu, h.supply, Tree.copy_branch, ← Tree.branch_eq, ← Tree.branch_plug] at hrep'
    rw [← hu, h.supply, Tree.copy_branch] at hsupply
    have hp : (d.plant u).2.trees.Perm ((d.supply.plant u).1 :: C.plug t :: rest) :=
      (List.perm_append_singleton _ _).trans (h'.trees.cons _)
    exact ⟨a', e, of_perm (by exact hrep') hp hsupply⟩
  obtain ⟨a', e, ha'⟩ := hplant (if deep then t else t.setChildren []) (by
    cases t <;> cases deep <;> rfl)
  exact ⟨_, a', _, e, by rw [Document.clone?, hn]; rfl, ha'⟩

/-- Planted trees are in the place of what was below an element, in an arena and in the forest. -/
lemma replaceChildren? (h : a.Refines d) (hn : d.find? n = some t) (ht : t.isElement = true)
    (trees : List (Tree Unit)) :
    let planted := (a.supply.give (releasedOf t.children)).plantAll trees
    ∃ (C : Tree.Context) (rest : List (Tree NodeId)) (d' : Document),
      a.Represents (C.branch.plug (.node n (NodeData.ofTree t) (branches t.children)) ::
        branches rest) ∧
      d.replaceChildren? n trees = some d' ∧
      d'.trees.Perm (C.plug (t.setChildren planted.1) :: rest) ∧ d'.supply = planted.2 := by
  obtain ⟨C, rest, h', hrep, rfl⟩ := h.exists_plug hn
  rw [h.supply]
  obtain ⟨left, e', hp⟩ := h'.update?_trees
    (f := fun u => u.setChildren ((d.supply.give (releasedOf t.children)).plantAll trees).1)
  refine ⟨C, rest, ⟨left, _⟩, Tree.branch_eq t ▸ hrep, ?_, hp, rfl⟩
  simp only [Document.replaceChildren?, hn, Option.bind_eq_bind, Option.bind_some, ht, if_true, e']

/-- A text is in the place of what was below an element, in an arena and in the forest. -/
lemma setText? (h : a.Refines d) (hn : d.find? n = some t) (ht : t.isElement = true)
    (content : String) :
    ∃ a' d', a.setText? n content = some a' ∧ d.setText? n content = some d' ∧ a'.Refines d' := by
  obtain ⟨C, rest, d', hrep, e', hp, hs⟩ := h.replaceChildren? hn ht [.text () content]
  obtain ⟨a', e, hrep', hsupply⟩ := hrep.setText? content
  rw [Tree.idsOf_branches] at hrep' hsupply
  refine ⟨a', d', e, e', of_perm ?_ hp (hsupply.trans hs.symm)⟩
  rw [Tree.branches_cons, Tree.branch_plug]
  obtain rfl : t.label = n := Tree.findIn?_label hn
  cases t with
  | element => exact hrep'
  | text => cases ht

/-- Markup is in the place of what was below an element, in an arena, which reads it event by event,
and in the forest, which plants what it holds in one piece. -/
lemma setMarkup? (h : a.Refines d) (hn : d.find? n = some t) (ht : t.isElement = true)
    (markup : String) :
    ∃ fault? a' d', a.setMarkup? n markup = some (a', fault?) ∧
      d.setMarkup? n markup = some (d', fault?) ∧ a'.Refines d' := by
  obtain ⟨C, rest, d₁, hrep, e', hp, hs⟩ := h.replaceChildren? hn ht (Markup.read markup).trees
  obtain ⟨a₁, e₁, h₁, hsupply₁⟩ := hrep.removeChildren?
  obtain ⟨a₂, e₂, h₂, hsupply₂⟩ := h₁.read? markup
  rw [hsupply₁, Tree.idsOf_branches] at h₂ hsupply₂
  obtain rfl : t.label = n := Tree.findIn?_label hn
  cases t with
  | text m content => cases ht
  | element m tag attrs hidden children =>
    have hread : a₂.Refines d₁ := by
      refine of_perm ?_ hp (hsupply₂.trans hs.symm)
      rw [Tree.branches_cons, Tree.branch_plug]
      exact h₂
    have hfind := (hread.has.perm hp).find?
    rw [Tree.label] at e₁ e₂ e' ⊢
    generalize hcontent : Markup.read markup = content at *
    obtain ⟨trees, fault?⟩ := content
    cases fault? with
    | none =>
      refine ⟨none, a₂, d₁, ?_, ?_, hread⟩
      · simp only [Arena.setMarkup?, e₁, e₂, Option.bind_eq_bind, Option.bind_some]
      · simp only [Document.setMarkup?, hcontent, e', Option.bind_eq_bind, Option.bind_some]
    | some fault =>
      -- what was read is removed again
      obtain ⟨a', d', e₃, e₃', h'⟩ := hread.removeChildren? hfind
      have hremoved : a₂.removeChildren? m = some a' := e₃
      have hremoved' : d₁.removeChildren? m = some d' := e₃'
      refine ⟨some fault, a', d', ?_, ?_, h'⟩
      · simp only [Arena.setMarkup?, e₁, e₂, hremoved, Option.bind_eq_bind, Option.bind_some]
      · simp only [Document.setMarkup?, hcontent, e', hremoved', Option.bind_eq_bind,
          Option.bind_some]

/-- Whether an operation is in order can be seen in the forest, apart from filling a text, for which
it has no room. -/
theorem inOrder_iff (h : a.Refines d) (op : Operation) :
    op.InOrder d ↔ a.InOrder op ∧ a.FillsElement op := by
  have hlive (n : NodeId) : (a.node? n).isSome = (d.find? n).isSome := by
    rw [h.node?_eq, Document.slot?, Option.isSome_map]
  have hfill (n : NodeId) : (d.find? n).any Tree.isElement = true ↔
      (a.node? n).isSome ∧ ∀ s ∈ a.node? n, s.data.isElement = true := by
    rw [h.node?_eq, Document.slot?]
    cases d.find? n with
    | none => simp
    | some t => cases t <;> simp [Tree.isElement, NodeData.ofTree, NodeData.isElement]
  cases op with
  | append p n =>
    simp only [Operation.InOrder, Arena.InOrder, Arena.FillsElement, hfill, hlive]
    cases hn : d.find? n with
    | none => simp
    | some t =>
      have hbelow : (t.find? p).isNone ↔ ¬ Relation.ReflTransGen a.HangsFrom p n := by
        obtain ⟨C, rest, h', hrep, rfl⟩ := h.exists_plug hn
        have hreaches := hrep.reaches_iff (n := p)
        rw [Tree.label_branch, Tree.ids_branch] at hreaches
        rw [Option.isNone_iff_eq_none, ← Option.not_isSome_iff_eq_none, not_iff_not, hreaches]
        refine ⟨fun hs => not_not.1 fun hp => ?_, fun hp => ?_⟩
        · rw [Tree.find?_of_notMem hp] at hs
          cases hs
        · obtain ⟨u, hu⟩ := Tree.exists_find? hp
          rw [hu]
          rfl
      simp [hbelow]
      tauto
  | setText n | setMarkup n => exact hfill n
  | remove n =>
    simp only [Operation.InOrder, Arena.InOrder, Arena.FillsElement, hlive]
    tauto
  | create tag => simp [Operation.InOrder, Arena.InOrder, Arena.FillsElement]
  | setAttr n | removeAttr n | addClass n | removeClass n | removeChildren n | detach n | clone n
  | removeText n | setHidden n =>
    simp [Operation.InOrder, Arena.InOrder, Arena.FillsElement, hlive]

/-- An operation that a forest has room for leads from an arena that holds the forest to one that
holds what the operation leaves of it. -/
theorem run? {op : Operation} (h : a.Refines d) (hop : op.InOrder d) :
    ∃ a' d', a.run? op = some a' ∧ op.run? d = some d' ∧ a'.Refines d' := by
  cases op with
  | setAttr n name value =>
    exact h.change? hop (Tree.restylesOnly_setAttr name value) fun t => NodeData.ofTree_mapAttrs t _
  | removeAttr n name =>
    exact h.change? hop (Tree.restylesOnly_removeAttr name) fun t => NodeData.ofTree_mapAttrs t _
  | addClass n name =>
    exact h.change? hop (Tree.restylesOnly_addClass name) fun t => NodeData.ofTree_addClass t name
  | removeClass n name =>
    exact h.change? hop (Tree.restylesOnly_removeClass name) fun t =>
      NodeData.ofTree_removeClass t name
  | append parent child =>
    obtain ⟨hparent, -, hchild⟩ := hop
    obtain ⟨q, hp, hq⟩ := (Option.any_eq_true _ _).1 hparent
    obtain ⟨t, hn, hbelow⟩ := (Option.any_eq_true _ _).1 hchild
    exact h.append? hn hp hq (Option.isNone_iff_eq_none.1 hbelow)
  | removeChildren n =>
    obtain ⟨t, hn⟩ := Option.isSome_iff_exists.1 hop
    exact h.removeChildren? hn
  | detach n =>
    obtain ⟨t, hn⟩ := Option.isSome_iff_exists.1 hop
    obtain ⟨a', d', rest, e, e', h', -⟩ := h.detach? hn
    exact ⟨a', d', e, e', h'⟩
  | remove n =>
    obtain ⟨t, hn⟩ := Option.isSome_iff_exists.1 hop.2
    exact h.remove? hn
  | clone n deep =>
    obtain ⟨t, hn⟩ := Option.isSome_iff_exists.1 hop
    obtain ⟨copy, a', d', e, e', h'⟩ := h.clone? hn deep
    exact ⟨a', d', by rw [Arena.run?, e]; rfl, by rw [Operation.run?, e']; rfl, h'⟩
  | setText n content =>
    obtain ⟨t, hn, ht⟩ := (Option.any_eq_true _ _).1 hop
    exact h.setText? hn ht content
  | removeText n =>
    obtain ⟨t, hn⟩ := Option.isSome_iff_exists.1 hop
    exact h.removeChildrenWhere? hn fun u => by cases u <;> rfl
  | setMarkup n markup =>
    obtain ⟨t, hn, ht⟩ := (Option.any_eq_true _ _).1 hop
    obtain ⟨fault?, a', d', e, e', h'⟩ := h.setMarkup? hn ht markup
    exact ⟨a', d', by rw [Arena.run?, e]; rfl, by rw [Operation.run?, e']; rfl, h'⟩
  | create tag =>
    obtain ⟨a', e, hrep, hsupply⟩ := h.represents.alloc (.element tag [] false)
    rw [h.supply] at hrep hsupply
    have hp : (d.create tag).2.trees.Perm
        (.element d.supply.take.1 tag [] false [] :: d.trees) := List.perm_append_singleton _ _
    exact ⟨a', _, by rw [Arena.run?, create, e], rfl,
      of_perm (by exact hrep) hp hsupply⟩
  | setHidden n hidden =>
    exact h.change? hop (Tree.restylesOnly_setHidden hidden) fun t =>
      NodeData.ofTree_setHidden t hidden

/-- Operations that a forest has room for, one after another, lead from an arena that holds the
forest to one that holds what they leave of it. -/
theorem runAll? {ops : List Operation} (h : a.Refines d) (hops : Operation.AllInOrder d ops) :
    ∃ a' d', a.runAll? ops = some a' ∧ Operation.runAll? d ops = some d' ∧ a'.Refines d' := by
  induction ops generalizing a d with
  | nil => exact ⟨a, d, rfl, rfl, h⟩
  | cons op ops ih =>
    obtain ⟨a₁, d₁, e, e', h₁⟩ := h.run? hops.1
    obtain ⟨a', d', e₁, e₁', h'⟩ := ih h₁ (hops.2 d₁ e')
    exact ⟨a', d', by rw [Arena.runAll?, e]; exact e₁, by rw [Operation.runAll?, e']; exact e₁', h'⟩

/-! ## From an arena to its forest and back -/

mutual

/-- What can be seen of a tree that an arena holds is the tree. -/
lemma tree?_branch {t : Tree NodeId} {room : Nat} {q : Option NodeId}
    (h : ∀ x ∈ t.branch.slots q, a.node? x.1 = some x.2) (hroom : t.released.length ≤ room) :
    Arena.tree? room a t.label = some t := by
  have hpos := List.length_pos_of_mem (Tree.label_mem_released t)
  obtain ⟨room, rfl⟩ : ∃ k, room = k + 1 := ⟨room - 1, by omega⟩
  cases t with
  | element n tag attrs hidden children =>
    rw [Tree.branch, Branch.slots_node, List.forall_mem_cons] at h
    rw [Tree.released_element, List.length_append, List.length_singleton] at hroom
    have hbelow : (children.map Tree.label).mapM (Arena.tree? room a) = some children :=
      mapM_tree?_branches h.2 (by omega)
    rw [Tree.label, Arena.tree?, h.1, Tree.map_label_branches]
    simp only [Option.bind_eq_bind, Option.bind_some, hbelow]
  | text n content =>
    rw [Tree.branch, Branch.slots_node, List.forall_mem_cons] at h
    rw [Tree.label, Arena.tree?, h.1]
    rfl

/-- What can be seen of trees that an arena holds are the trees. -/
lemma mapM_tree?_branches {ts : List (Tree NodeId)} {room : Nat} {q : Option NodeId}
    (h : ∀ x ∈ slotsOf q (branches ts), a.node? x.1 = some x.2)
    (hroom : (releasedOf ts).length ≤ room) :
    (ts.map Tree.label).mapM (Arena.tree? room a) = some ts := by
  cases ts with
  | nil => rfl
  | cons t ts =>
    rw [Tree.branches, Branch.slotsOf_cons, List.forall_mem_append] at h
    rw [Tree.releasedOf_cons, List.length_append] at hroom
    have hlater : (ts.map Tree.label).mapM (Arena.tree? room a) = some ts :=
      mapM_tree?_branches h.2 (by omega)
    rw [List.map_cons, List.mapM_cons, tree?_branch h.1 (by omega), hlater]
    rfl

end

/-- The nodes that no other node is above begin the trees of the forest. -/
lemma tops_perm (h : a.Refines d) :
    (((List.range a.slots.size).map NodeId.mk).filter fun n =>
      (a.node? n).any fun s => s.parent.isNone).Perm (d.trees.map Tree.label) := by
  have hlabels : (d.trees.map Tree.label).Nodup :=
    h.has.sound.nodup.sublist (Tree.map_label_sublist d.trees)
  refine (List.perm_ext_iff_of_nodup (a.supply.nodup_made.filter _) hlabels).2 fun n => ?_
  rw [List.mem_filter, Supply.mem_made, Option.any_eq_true, ← Tree.map_label_branches]
  constructor
  · rintro ⟨-, s, hs, hnone⟩
    rcases Branch.parent_memOf ((h.represents.holds.node?_eq_some n s).1 hs) with
      ⟨hn, -⟩ | ⟨p, -, -, hparent, -⟩
    · exact hn
    · rw [hparent] at hnone
      cases hnone
  · intro hn
    obtain ⟨s, hs, hnone⟩ := Branch.exists_slot_of_mem (q := none) hn
    have hnode := (h.represents.holds.node?_eq_some n s).2 hs
    exact ⟨index_lt_of_node? hnode, s, hnode, by rw [hnone]; rfl⟩

/-- The forest that is read off an arena is the one that it holds, the trees in another order. -/
theorem document? (h : a.Refines d) :
    ∃ d', a.document? = some d' ∧ d'.trees.Perm d.trees ∧ d'.supply = d.supply := by
  have hbare : (((List.range a.slots.size).map NodeId.mk).any fun n =>
      (a.node? n).any Slot.isCrowded) = false := by
    rw [List.any_eq_false]
    intro n _
    rw [h.node?_eq, Document.slot?]
    cases d.find? n with
    | none => simp
    | some t =>
      cases t <;> simp [Slot.isCrowded, NodeData.ofTree, NodeData.isElement, Tree.children]
  have hseen : List.Forall₂ (fun n t => Arena.tree? a.room a n = some t)
      (d.trees.map Tree.label) d.trees := by
    rw [List.forall₂_map_left_iff, List.forall₂_same]
    intro t ht
    obtain ⟨before, after, e⟩ := List.append_of_mem ht
    have hheld : a.Holds (t.branch.slots none ++ slotsOf none (branches (before ++ after))) := by
      have hp : d.trees.Perm (t :: (before ++ after)) := e ▸ List.perm_middle
      have hrep := h.represents.perm (Tree.branches_perm hp)
      rw [Tree.branches_cons] at hrep
      exact Branch.slotsOf_cons none _ _ ▸ hrep.holds
    refine tree?_branch (fun x hx => (hheld.node?_eq_some _ _).2 (List.mem_append_left _ hx)) ?_
    rw [← Tree.ids_branch]
    exact hheld.length_ids_le
  obtain ⟨trees, hall, hp⟩ := List.perm_comp_forall₂ h.tops_perm hseen
  have hmapM {ns : List NodeId} {ts : List (Tree NodeId)}
      (hns : List.Forall₂ (fun n t => Arena.tree? a.room a n = some t) ns ts) :
      ns.mapM (Arena.tree? a.room a) = some ts := by
    induction hns with
    | nil => rfl
    | cons hn _ ih =>
      rw [List.mapM_cons, hn, ih]
      rfl
  refine ⟨⟨trees, a.supply⟩, ?_, hp, h.supply⟩
  rw [Arena.document?, hbare, if_neg Bool.false_ne_true]
  simp only [hmapM hall, Option.bind_eq_bind, Option.bind_some]

end Refines

/-- The arena that a forest is put into holds it. -/
theorem refines_arena (h : d.Has d.trees) : d.arena.Refines d := by
  have hnode (n : NodeId) : d.arena.node? n = d.slot? n := by
    obtain ⟨index⟩ := n
    by_cases hindex : index < d.supply.size
    · simp [node?, Document.arena, hindex]
    · have hmade : NodeId.mk index ∉ releasedOf d.trees := fun hn =>
        hindex (Supply.mem_made.1 (List.Perm.subset h.sound (List.mem_append_left _ hn)))
      rw [Document.slot?, h.find?_eq_none hmade]
      simp [node?, Document.arena, hindex]
  have hsupply : d.arena.supply = d.supply := by
    simp [supply, Document.arena]
  have hids := Branch.slotsOf_ids none (branches d.trees)
  rw [Tree.idsOf_branches] at hids
  refine ⟨⟨⟨hids.nodup_iff.2 h.sound.nodup, fun n s => ?_⟩, ?_⟩, hsupply⟩
  · rw [hnode, h.slot?_eq_some]
  · rw [hsupply, Tree.idsOf_branches]
    exact h.sound

/-- The arena of a document without any content holds the empty forest. -/
lemma refines_empty : Arena.empty.Refines .empty :=
  ⟨Represents.empty, rfl⟩

/-- A document is read into an arena where it is read as a forest, and with the same fault where it
is not. -/
theorem refines_parse? (markup : String) :
    (∃ a d, Arena.parse? markup = some (.ok a) ∧ Document.parse markup = .ok d ∧ a.Refines d) ∨
      ∃ fault, Arena.parse? markup = some (.error fault) ∧ Document.parse markup =
        .error fault := by
  obtain ⟨a, e, hrep, hsupply⟩ := Represents.parse? markup
  cases hfault : (Markup.read markup).fault? with
  | none =>
    refine .inl ⟨a, .ofTrees (Markup.read markup).trees, by rw [e, hfault], ?_, ?_⟩
    · rw [Document.parse_eq_ok]
      exact ⟨_, Markup.parse_eq_ok.2 ⟨hfault, rfl⟩, rfl⟩
    · have hplanted : (Arena.empty.supply.plantAll (Markup.read markup).trees) =
          Arena.empty.supply.plantAll ((Markup.read markup).trees.map (·.relabel some)) := by
        rw [← Stocked.relabelAll_eq_map, Supply.plantAll_relabelAll]
      rw [hplanted] at hrep hsupply
      exact ⟨hrep, hsupply⟩
  | some fault =>
    refine .inr ⟨fault, by rw [e, hfault], ?_⟩
    rw [Document.parse, Markup.parse, hfault]
    rfl

end Arena

end TreeTemplate
