import TreeTemplate.Proofs.Documents.Operations
import TreeTemplate.Proofs.Documents.Writing
import TreeTemplate.Proofs.Forest.Ancestry

/-!
# Markup in the place of what is below an element

Putting markup into an element is reading a document and grafting what it holds. Where the markup is
not accepted nothing is left below the element, whatever had been read by then. In both cases
nothing changes anywhere else in the document, in no other tree either, and every node that is new
stands below the element.

Main statements:

* `Document.Has.grafted` — what fills a context is exchanged below its top;
* `setMarkup_grafts` — markup is read and grafted, or refused.
-/

namespace TreeTemplate

open TreeTemplate.Tree (releasedOf)

/-- An identity of some trees is one of a tree among them. -/
lemma Tree.exists_mem_of_mem_releasedOf {n : NodeId} {ts : List (Tree NodeId)}
    (h : n ∈ releasedOf ts) : ∃ t ∈ ts, n ∈ t.released := by
  induction ts with
  | nil => cases h
  | cons t ts ih =>
    rcases List.mem_append.1 h with h | h
    · exact ⟨t, List.mem_cons_self, h⟩
    · obtain ⟨u, hu, hn⟩ := ih h
      exact ⟨u, List.mem_cons_of_mem t hu, hn⟩

namespace Document

variable {d d' : Document} {n m : NodeId} {t u : Tree NodeId} {ts us rest : List (Tree NodeId)}
  {C : Tree.Context}

/-- From one document to another, other nodes have taken the place of everything below a node `t`,
and nothing else has changed. -/
structure Grafted (d d' : Document) (t : Tree NodeId) (planted : List (Tree NodeId)) : Prop where
  /-- The node is as it was, but for what is below it. -/
  node : d'.find? t.label = some (t.setChildren planted)
  /-- A node that did not stand below it is there as before, by itself and with the same nodes
  directly below it. -/
  outside : ∀ m u, d.find? m = some u → m ∉ releasedOf t.children → m ≠ t.label →
    ∃ u', d'.find? m = some u' ∧ u'.setChildren [] = u.setChildren [] ∧
      u'.children.map Tree.label = u.children.map Tree.label
  /-- A node that did not stand below it has the parent that it had. -/
  parent : ∀ m, (d.find? m).isSome → m ∉ releasedOf t.children → d'.parent? m = d.parent? m
  /-- A node that is there now stands below it, or was there before and did not stand below it. -/
  found : ∀ m, (d'.find? m).isSome →
    m ∈ releasedOf planted ∨ (d.find? m).isSome ∧ m ∉ releasedOf t.children
  /-- The nodes that stood below it are no longer counted, and those that stand there now are. -/
  nodeCount : d'.nodeCount + (releasedOf t.children).length =
    d.nodeCount + (releasedOf planted).length

namespace Has

/-- What is found is a node of the trees. -/
lemma mem_nodesOf (h : d.Has ts) (hn : d.find? n = some t) : t ∈ Tree.nodesOf ts := by
  obtain ⟨C, rest, hp, -, -⟩ := h.exists_plug hn
  exact Tree.mem_nodesOf.2 ⟨C.plug t, hp.subset List.mem_cons_self,
    Tree.nodes_subset_plug C t (Tree.self_mem_nodes t)⟩

variable {tag : String} {attrs : List (String × String)} {hidden : Bool}
  {planted : List (Tree NodeId)}

/-- The identities of a document are those below the top of what fills a context and the others. -/
lemma released_perm (C : Tree.Context) (m : NodeId) (tag : String)
    (attrs : List (String × String)) (hidden : Bool) (ts rest : List (Tree NodeId)) :
    (releasedOf (C.plug (.element m tag attrs hidden ts) :: rest)).Perm
      (releasedOf ts ++ m :: (C.ids ++ releasedOf rest)) := by
  refine List.perm_iff_count.2 fun n => ?_
  simp only [Tree.releasedOf_cons, List.count_append, (Tree.released_plug C _).count_eq,
    Tree.released_element, List.count_cons, List.count_nil]
  omega

/-- A node that is neither the top of what fills a context nor below it stays when the nodes below
that top are exchanged. -/
lemma exists_of_exchange (h : d.Has (C.plug (.element m tag attrs hidden ts) :: rest))
    (h' : d'.Has (C.plug (.element m tag attrs hidden planted) :: rest))
    (hu : d.find? n = some u) (hn : n ∉ releasedOf ts) (hne : n ≠ m) :
    ∃ u', d'.find? n = some u' ∧ u'.setChildren [] = u.setChildren [] ∧
      u'.children.map Tree.label = u.children.map Tree.label := by
  obtain rfl : u.label = n := Tree.findIn?_label hu
  obtain ⟨v, hv, huv⟩ := Tree.mem_nodesOf.1 (h.mem_nodesOf hu)
  -- the node stands in the tree around the top, or in another tree, which is not touched
  rcases List.mem_cons.1 hv with rfl | hv
  · have hl : (Tree.element m tag attrs hidden planted).label =
        (Tree.element m tag attrs hidden ts).label := rfl
    rcases Tree.exists_of_mem_plug hl huv with hin | ⟨u', hu', hself, hchildren⟩
    · have hmem := Tree.label_mem_of_mem_nodes hin
      rw [Tree.released_element, List.mem_append, List.mem_singleton] at hmem
      exact absurd hmem (by simp [hn, hne])
    · have hlabel : u'.label = u.label := by
        rw [← Tree.label_setChildren [] u', hself, Tree.label_setChildren]
      refine ⟨u', ?_, hself, hchildren⟩
      rw [← hlabel]
      exact h'.find?_of_mem_nodes (Tree.mem_nodesOf.2 ⟨_, List.mem_cons_self, hu'⟩)
  · exact ⟨u, h'.find?_of_mem_nodes (Tree.mem_nodesOf.2 ⟨v, List.mem_cons_of_mem _ hv, huv⟩),
      rfl, rfl⟩

/-- A node that does not stand below the top of what fills a context keeps its parent when the nodes
below that top are exchanged. -/
lemma parent?_of_exchange (h : d.Has (C.plug (.element m tag attrs hidden ts) :: rest))
    (h' : d'.Has (C.plug (.element m tag attrs hidden planted) :: rest))
    (hs : (d.find? n).isSome) (hn : n ∉ releasedOf ts) : d'.parent? n = d.parent? n := by
  have hused := h.find?_isSome.1 hs
  rw [Tree.releasedOf_cons, List.mem_append] at hused
  rcases hused with hplug | hrest
  · rcases Tree.mem_released_plug.1 hplug with hmem | hids
    · -- the top itself
      rw [Tree.released_element, List.mem_append, List.mem_singleton] at hmem
      obtain rfl : n = m := hmem.resolve_left hn
      refine h.parent?_exchange h' rfl hplug (mem_plug (Tree.label_mem_released _)) ?_
      have hnodup := (List.nodup_append.1 h.nodup_plug).1
      have hnodup' := (List.nodup_append.1 h'.nodup_plug).1
      exact (Tree.parent?_label_eq_none hnodup).trans (Tree.parent?_label_eq_none hnodup').symm
    · refine h.parent?_exchange h' rfl hplug (Tree.mem_released_plug.2 (.inr hids)) ?_
      rw [Tree.parent?_of_notMem fun hmem => h.notMem_ids hmem hids,
        Tree.parent?_of_notMem fun hmem => h'.notMem_ids hmem hids]
  · obtain ⟨v, hv, hnv⟩ := Tree.exists_mem_of_mem_releasedOf hrest
    exact h.parent?_of_mem h' (List.mem_cons_of_mem _ hv) (List.mem_cons_of_mem _ hv) hnv

/-- The nodes below the top of what fills a context are exchanged. -/
lemma grafted (ht : t.isElement = true) (h : d.Has (C.plug t :: rest))
    (h' : d'.Has (C.plug (t.setChildren planted) :: rest)) : d.Grafted d' t planted := by
  cases t with
  | text => cases ht
  | element m tag attrs hidden children =>
    replace h' : d'.Has (C.plug (.element m tag attrs hidden planted) :: rest) := h'
    have hp := released_perm C m tag attrs hidden children rest
    have hp' := released_perm C m tag attrs hidden planted rest
    refine ⟨h'.find?, fun n u hu hn hne => h.exists_of_exchange h' hu hn hne,
      fun n hs hn => h.parent?_of_exchange h' hs hn, fun n hs => ?_, ?_⟩
    -- identities do not repeat, so what stands elsewhere now did not stand below the top before
    · have hused := List.mem_append.1 (hp'.mem_iff.1 (h'.find?_isSome.1 hs))
      refine hused.imp id fun hm => ⟨h.find?_isSome.2 ?_, fun hgone => ?_⟩
      · exact hp.mem_iff.2 (List.mem_append_right _ hm)
      · exact (List.nodup_append.1 (hp.nodup_iff.1 h.sound.nodup)).2.2 n hgone n hm rfl
    · rw [Document.nodeCount, Document.nodeCount, h.sound.inUse, h'.sound.inUse, hp.length_eq,
        hp'.length_eq]
      simp only [List.length_append, Tree.children]
      omega

end Has

end Document

/-- Markup that is put into an element of a document in order is read as a document is. Where it is
accepted, the nodes of that document take the place of everything below the element, and where it is
refused, with the same fault, nothing is left there. -/
theorem setMarkup_grafts {d : Document} {ts : List (Tree NodeId)} {n : NodeId} {t : Tree NodeId}
    (h : d.Orderly ts) (hn : d.find? n = some t) (ht : t.isElement = true) (markup : String) :
    ∃ d' fault? planted, d.setMarkup? n markup = some (d', fault?) ∧ d.Grafted d' t planted ∧
      match Document.parse markup with
      | .ok parsed => fault? = none ∧
          planted.map Tree.bare = parsed.content.map Tree.bare
      | .error fault => fault? = some fault ∧ planted = [] := by
  obtain ⟨C, rest, h', rfl⟩ := h.exists_plug hn
  cases t with
  | text => cases ht
  | element m tag attrs hidden children =>
    obtain ⟨planted, d', hset, hbare, hd'⟩ := h'.toHas.setMarkup? markup
    refine ⟨d', _, planted, hset, h'.toHas.grafted ht hd', ?_⟩
    cases hfault : (Markup.read markup).fault? with
    | none =>
      rw [hfault, Stocked.relabelAll_eq_map, Stocked.relabelAll_eq_map] at hbare
      have hparse : Document.parse markup = .ok (.ofTrees (Markup.read markup).trees) :=
        Document.parse_eq_ok.2 ⟨_, Markup.parse_eq_ok.2 ⟨hfault, rfl⟩, rfl⟩
      rw [hparse]
      dsimp only
      rw [Document.content_ofTrees]
      have hunit : (Markup.read markup).trees.map Tree.bare = (Markup.read markup).trees :=
        (List.map_congr_left fun t _ => Stocked.bare_unit t).trans (List.map_id _)
      exact ⟨rfl, hbare.trans hunit⟩
    | some fault =>
      rw [hfault, Stocked.relabelAll_eq_map] at hbare
      have hparse : Document.parse markup = .error fault := by
        rw [Document.parse, Markup.parse, hfault]
        rfl
      rw [hparse]
      exact ⟨rfl, List.map_eq_nil_iff.1 hbare⟩

/-- A list takes the place of another one, and markup whose elements are not closed in order leaves
nothing in its place. -/
theorem setMarkup_grafts_refused :
    ∃ d t, Operation.runAll? .empty [.create "ul", .setMarkup ⟨1⟩ "<li>a</li>"] = some d ∧
      d.find? ⟨1⟩ = some t ∧ (∃ d' fault, d.setMarkup? ⟨1⟩ "<li>b<i></li>" = some (d', some fault) ∧
        d.Grafted d' t [] ∧ d'.nodeCount + 2 = d.nodeCount) := by
  have hstart : Document.empty.Orderly _ :=
    Document.orderly_ofTrees (show ∀ t ∈ ([] : List (Tree Unit)), t.Distinct from nofun)
  obtain ⟨d, us, hd, h⟩ := Operation.orderly_runAll? hstart
    (show Operation.AllInOrder .empty [.create "ul", .setMarkup ⟨1⟩ "<li>a</li>"] by decide +kernel)
  have hlist : ((Operation.runAll? .empty [.create "ul", .setMarkup ⟨1⟩ "<li>a</li>"]).bind
      (·.find? ⟨1⟩)).map (fun t => (t.isElement, (releasedOf t.children).length)) =
        some (true, 2) := by decide +kernel
  rw [hd, Option.bind_some] at hlist
  obtain ⟨t, hn, ht⟩ := Option.map_eq_some_iff.1 hlist
  obtain ⟨d', fault?, planted, hset, hgrafted, hparse⟩ :=
    setMarkup_grafts h hn (congrArg Prod.fst ht) "<li>b<i></li>"
  have hrefused : (Document.parse "<li>b<i></li>").toOption.isNone = true := by decide +kernel
  cases hread : Document.parse "<li>b<i></li>" with
  | ok parsed =>
    rw [hread] at hrefused
    cases hrefused
  | error fault =>
    rw [hread] at hparse
    obtain ⟨rfl, rfl⟩ := hparse
    have hcount := hgrafted.nodeCount
    rw [show (releasedOf t.children).length = 2 from congrArg Prod.snd ht] at hcount
    exact ⟨d, t, hd, hn, d', fault, hset, hgrafted, hcount⟩

end TreeTemplate
