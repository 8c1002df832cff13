import TreeTemplate.Proofs.Documents.Operations
import TreeTemplate.Proofs.Forest.Nodes

/-!
# Copies of nodes

A node is copied with everything below it. The copy is a tree of its own, and its nodes are new:
identities that were given back are handed out again for them, but none that a node still has.
Everything that was there stays as it was, the node that was copied and what is below it included.

A copy is planted in one piece. It is the same to copy the node alone, and then the nodes directly
below it one after another, each put below the first copy as soon as it is made.

Main statements:

* `Document.WellFormed.adds_plant` — a tree that is planted is added to a well-formed document;
* `Document.WellFormed.clone?_nodewise` — a copy that is made node by node;
* `clone_adds` — a copy is added, and looks like the node.
-/

namespace TreeTemplate

namespace Document

variable {d : Document} {n m : NodeId} {t c : Tree NodeId} {ts done : List (Tree NodeId)}
  {s : Supply}

/-! ## A tree that is added -/

/-- From one document to another a tree has been added, and nothing else has changed. -/
structure Adds (d d' : Document) (u : Tree NodeId) : Prop where
  /-- The node at the top of the tree has no parent. -/
  top : d'.parent? u.label = none
  /-- The nodes of the tree were not there before. -/
  new : ∀ v ∈ u.nodes, d.find? v.label = none
  /-- They are there now. -/
  found : ∀ v ∈ u.nodes, d'.find? v.label = some v
  /-- A node of the tree is the parent of those directly below it. -/
  child : ∀ v ∈ u.nodes, ∀ c ∈ v.children, d'.parent? c.label = some v.label
  /-- No two nodes of the tree share an identity. -/
  nodup : (u.nodes.map Tree.label).Nodup
  /-- A node that was there before is as it was, with everything below it and under the parent that
  it had. -/
  kept : ∀ m v, d.find? m = some v → d'.find? m = some v ∧ d'.parent? m = d.parent? m
  /-- A node that is there now was there before or belongs to the tree. -/
  others : ∀ m v, d'.find? m = some v → d.find? m = some v ∨ v ∈ u.nodes
  /-- The nodes of the tree are counted. -/
  nodeCount : d'.nodeCount = d.nodeCount + u.nodes.length

/-- Of a planted tree and the trees before it the planted one is searched first. -/
lemma find?_plant {ι : Type} (d : Document) (x : Tree ι) (n : NodeId) :
    (d.plant x).2.find? n = ((d.supply.plant x).1.find? n).or (d.find? n) := by
  simp [Document.plant, Document.find?, Tree.findIn?_append, Tree.findIn?]

/-- Planting a tree leaves the parents of the other nodes as they are. -/
lemma parent?_plant {ι : Type} (d : Document) (x : Tree ι) (n : NodeId) :
    (d.plant x).2.parent? n = ((d.supply.plant x).1.parent? n).or (d.parent? n) := by
  simp [Document.plant, Document.parent?, Tree.parentIn?_append, Tree.parentIn?]

namespace WellFormed

variable {ι : Type} {x : Tree ι}

/-- No two nodes of a planted tree share an identity. -/
lemma nodup_planted (h : d.WellFormed) : (d.supply.plant x).1.released.Nodup :=
  (List.nodup_append.1 (h.sound.plant x).nodup).1

/-- What is planted has no identity of a node that is there. -/
lemma find?_of_planted (h : d.WellFormed) (hm : m ∈ (d.supply.plant x).1.released) :
    d.find? m = none := by
  have happart := (List.nodup_append.1 (h.sound.plant x).nodup).2.2
  cases hn : d.find? m with
  | none => rfl
  | some t =>
    have hlive : m ∈ d.live := h.mem_live.2 (by rw [hn]; rfl)
    exact absurd rfl (happart m hm m hlive)

/-- A tree that is planted is added to a well-formed document. -/
theorem adds_plant (h : d.WellFormed) (x : Tree ι) :
    d.Adds (d.plant x).2 (d.supply.plant x).1 where
  top := by
    rw [parent?_plant, Tree.parent?_label_eq_none h.nodup_planted, Option.none_or]
    -- a node with a parent was there before, but the top of the tree was not
    cases hp : d.parent? (d.supply.plant x).1.label with
    | none => rfl
    | some p =>
      have hsome := (h.parent _ p hp).1
      rw [h.find?_of_planted (Tree.label_mem_released _)] at hsome
      cases hsome
  new v hv := h.find?_of_planted (Tree.label_mem_of_mem_nodes hv)
  found v hv := by rw [find?_plant, Tree.find?_of_mem_nodes h.nodup_planted hv, Option.some_or]
  child v hv c hc := by
    rw [parent?_plant, Tree.parent?_of_mem_children h.nodup_planted hv hc, Option.some_or]
  nodup := (Tree.released_perm_nodes _).nodup_iff.1 h.nodup_planted
  kept m v hv := by
    have hm : m ∉ (d.supply.plant x).1.released := fun hm => by
      rw [h.find?_of_planted hm] at hv
      cases hv
    rw [find?_plant, parent?_plant, Tree.find?_of_notMem hm, Tree.parent?_of_notMem hm,
      Option.none_or, Option.none_or]
    exact ⟨hv, rfl⟩
  others m v hv := by
    rw [find?_plant, Option.or_eq_some_iff] at hv
    rcases hv with hv | ⟨-, hv⟩
    · obtain ⟨C, hC⟩ := Tree.exists_plug_of_find? hv
      exact .inr (hC ▸ Tree.nodes_subset_plug C v (Tree.self_mem_nodes v))
    · exact .inl hv
  nodeCount := by
    have hafter : (d.plant x).2.nodeCount = _ := (h.sound.plant x).inUse
    have hbefore : d.nodeCount = _ := h.sound.inUse
    rw [hafter, hbefore, List.length_append, (Tree.released_perm_nodes _).length_eq,
      List.length_map, Nat.add_comm]

end WellFormed

/-! ## Node by node -/

/-- Copies a node with everything below it, and puts the copy below an element. -/
def cloneBelow? (d : Document) (parent child : NodeId) : Option Document := do
  let (copy, d) ← d.clone? child true
  d.append? parent copy

/-- A copy that is put below the last tree stands behind the nodes that are there. -/
lemma cloneBelow?_last {tag : String} {attrs : List (String × String)} {hidden : Bool}
    (hc : Tree.findIn? c.label (ts ++ [.element m tag attrs hidden done]) = some c) :
    cloneBelow? ⟨ts ++ [.element m tag attrs hidden done], s⟩ m c.label =
      some ⟨ts ++ [.element m tag attrs hidden (done ++ [(s.plant c).1])], (s.plant c).2⟩ := by
  have hfind : Tree.findIn? m (ts ++ [.element m tag attrs hidden done]) =
      some (.element m tag attrs hidden done) := by
    simp [Tree.findIn?_append, Tree.findIn?, Tree.find?]
  have hupdate : Tree.updateIn? m (fun t => t.setChildren (t.children ++ [(s.plant c).1]))
      (ts ++ [.element m tag attrs hidden done]) =
        some (ts ++ [.element m tag attrs hidden (done ++ [(s.plant c).1])]) :=
    Tree.updateIn?_last ts (.element m tag attrs hidden done)
  simp only [cloneBelow?, Document.clone?, Document.find?, hc, Option.map_some, if_true,
    Option.bind_eq_bind, Option.bind_some, plant, append?, Tree.takeIn?_last, hfind, hupdate,
    Tree.isElement]

namespace WellFormed

/-- Nodes of a well-formed document are copied one after another, each below the last tree. -/
lemma foldlM_cloneBelow? (h : d.WellFormed) {tag : String} {attrs : List (String × String)}
    {hidden : Bool} (hts : ∀ c ∈ ts, d.find? c.label = some c)
    (hs : s.Sound ((Tree.element m tag attrs hidden done).released ++ d.live)) :
    (ts.map Tree.label).foldlM (fun d child => cloneBelow? d m child)
        ⟨d.trees ++ [.element m tag attrs hidden done], s⟩ =
      some ⟨d.trees ++ [.element m tag attrs hidden (done ++ (s.plantAll ts).1)],
        (s.plantAll ts).2⟩ := by
  induction ts generalizing done s with
  | nil => simp [Supply.plantAll]
  | cons c ts ih =>
    have hc := hts c List.mem_cons_self
    -- the copies that were made so far are new, so they do not hide the node that is next
    have hcopies : c.label ∉ (Tree.element m tag attrs hidden done).released := fun hmem =>
      (List.nodup_append.1 hs.nodup).2.2 _ hmem _ (h.mem_live.2 (by rw [hc]; rfl)) rfl
    have hfind : Tree.findIn? c.label (d.trees ++ [.element m tag attrs hidden done]) = some c := by
      rw [Tree.findIn?_append, Tree.findIn?, Tree.findIn?, Tree.find?_of_notMem hcopies]
      exact hc
    have hnext : (s.plant c).2.Sound ((Tree.element m tag attrs hidden
        (done ++ [(s.plant c).1])).released ++ d.live) := by
      refine (hs.plant c).perm (List.perm_iff_count.2 fun n => ?_)
      simp only [Tree.released_element, Tree.releasedOf_append, Tree.releasedOf_cons,
        Tree.releasedOf_nil, List.count_append, List.count_nil]
      omega
    rw [List.map_cons, List.foldlM_cons, cloneBelow?_last hfind, Option.bind_eq_bind,
      Option.bind_some, ih (fun c hc => hts c (List.mem_cons_of_mem _ hc)) hnext]
    simp [Supply.plantAll]

/-- To copy a node with everything below it is to copy the node alone, and then one after another
the nodes that are directly below it, each with everything below it and put below the copy. -/
theorem clone?_nodewise (h : d.WellFormed) (hn : d.find? n = some t) :
    d.clone? n true = do
      let (copy, d) ← d.clone? n false
      let d ← (t.children.map Tree.label).foldlM (fun d child => d.cloneBelow? copy child) d
      return (copy, d) := by
  cases t with
  | element m tag attrs hidden children =>
    have halone : d.clone? n false = some (d.supply.take.1,
        ⟨d.trees ++ [.element d.supply.take.1 tag attrs hidden []], d.supply.take.2⟩) := by
      rw [clone?, hn]
      rfl
    have hwhole : d.clone? n true = some (d.supply.take.1,
        ⟨d.trees ++ [.element d.supply.take.1 tag attrs hidden
          ([] ++ (d.supply.take.2.plantAll children).1)],
          (d.supply.take.2.plantAll children).2⟩) := by
      rw [clone?, hn]
      rfl
    have hs : d.supply.take.2.Sound
        ((Tree.element d.supply.take.1 tag attrs hidden []).released ++ d.live) := h.sound.take
    have hbelow := h.foldlM_cloneBelow? (fun c hc => h.child n _ c hn hc) hs
    simp only [Tree.children] at hbelow ⊢
    rw [hwhole, halone, Option.bind_eq_bind, Option.bind_some, hbelow]
    rfl
  | text m content => simp [clone?, hn, Tree.setChildren, Tree.children]

end WellFormed

end Document

/-! ## Copies -/

open Document (root)

variable {d : Document} {n : NodeId} {t : Tree NodeId}

/-- A node of a well-formed document is copied with everything below it. The copy is added and
nothing else changes; it has the tags, attributes, texts and hidden elements of what was copied, in
the same order, and is written in the same way. -/
theorem clone_adds (h : d.WellFormed) (hn : d.find? n = some t) :
    ∃ copy d', d.clone? n true = some (copy.label, d') ∧ d.Adds d' copy ∧ copy.bare = t.bare ∧
      d'.nodeCount = d.nodeCount + t.nodes.length ∧
      (d'.find? copy.label).map Tree.markup = (d'.find? n).map Tree.markup := by
  have hadds := h.adds_plant t
  have hbare := Supply.plant_bare d.supply t
  have hclone : d.clone? n true = some ((d.supply.plant t).1.label, (d.plant t).2) := by
    rw [Document.clone?, hn]
    rfl
  refine ⟨(d.supply.plant t).1, (d.plant t).2, hclone, hadds, hbare, ?_, ?_⟩
  · -- the copy has as many nodes as what was copied
    have hnodes := congrArg (fun u : Tree Unit => u.nodes.length) hbare
    simp only [Tree.bare, Tree.nodes_relabel, List.length_map] at hnodes
    rw [hadds.nodeCount, hnodes]
  · have hmarkup := congrArg Tree.markup hbare
    simp only [Tree.bare, Tree.markup_relabel] at hmarkup
    rw [hadds.found _ (Tree.self_mem_nodes _), (hadds.kept n t hn).1, Option.map_some,
      Option.map_some, hmarkup]

/-- An item of a list is copied whose nodes are a text and a hidden element. Two identities that an
item before it had are used again. -/
theorem clone_adds_reused :
    ∃ d t, Operation.runAll? .empty [.create "ul", .append root ⟨1⟩,
        .setMarkup ⟨1⟩ "<li>a</li><li id=\"x\">b<i/></li>", .setHidden ⟨6⟩ true, .remove ⟨2⟩] =
          some d ∧ d.WellFormed ∧ d.find? ⟨4⟩ = some t ∧
      ∃ copy d', d.clone? ⟨4⟩ true = some (copy.label, d') ∧ d.Adds d' copy ∧
        copy.bare = t.bare ∧ copy.label = ⟨2⟩ ∧ d'.nodeCount = 8 := by
  have hstart : Document.empty.Orderly _ :=
    Document.orderly_ofTrees (show ∀ t ∈ ([] : List (Tree Unit)), t.Distinct from nofun)
  obtain ⟨d, ts, hd, h⟩ := Operation.orderly_runAll? hstart
    (show Operation.AllInOrder .empty [.create "ul", .append root ⟨1⟩,
      .setMarkup ⟨1⟩ "<li>a</li><li id=\"x\">b<i/></li>", .setHidden ⟨6⟩ true, .remove ⟨2⟩] by
        decide +kernel)
  have hcopy : ((Operation.runAll? .empty [.create "ul", .append root ⟨1⟩,
      .setMarkup ⟨1⟩ "<li>a</li><li id=\"x\">b<i/></li>", .setHidden ⟨6⟩ true, .remove ⟨2⟩]).bind
        (·.clone? ⟨4⟩ true)).map (fun c => (c.1, c.2.nodeCount)) = some (⟨2⟩, 8) := by
    decide +kernel
  rw [hd, Option.bind_some] at hcopy
  obtain ⟨⟨label, copied⟩, hclone, hlabel⟩ := Option.map_eq_some_iff.1 hcopy
  obtain ⟨t, hn, -⟩ := Option.map_eq_some_iff.1 hclone
  obtain ⟨copy, d', hclone', hadds, hbare, -, -⟩ := clone_adds h.wellFormed hn
  obtain ⟨rfl, rfl⟩ := Prod.mk.inj (Option.some.inj (hclone.symm.trans hclone'))
  exact ⟨d, t, hd, h.wellFormed, hn, copy, copied, hclone, hadds, hbare,
    congrArg Prod.fst hlabel, congrArg Prod.snd hlabel⟩

end TreeTemplate
