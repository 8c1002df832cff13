import TreeTemplate.Proofs.Documents.Anchored
import TreeTemplate.Proofs.Surroundings.Walks
import TreeTemplate.Proofs.Forest.Nodes

/-!
# Calls for an element

A value that is injected into an element, and an element that is reset, change nothing outside of
the element as long as no element is left by a jump. That does not depend on whether the call
succeeds, nor on what calls there were before.

Main statements:

* `Document.SameOutside` — what it is that stays;
* `calls_confined` — calls for an element of a document, whatever calls there were before.
-/

namespace TreeTemplate

variable {d : Document} {e : Engine}

/-- The element that a call is for, if it is for one. -/
def Call.element? : Call → Option NodeId
  | inject _ | reset => none
  | injectElement n _ | resetElement n => some n

/-- From one document to another nothing has changed outside of an element. -/
structure Document.SameOutside (d d' : Document) (t : Tree NodeId) : Prop where
  /-- A node outside is attached as before, by itself and with the nodes directly below it. -/
  node : ∀ u ∈ d.attached, t.find? u.label = none → ∃ u' ∈ d'.attached,
    u'.setChildren [] = u.setChildren [] ∧ u'.children.map Tree.label = u.children.map Tree.label
  /-- A node outside has the parent that it had. -/
  parent : ∀ u ∈ d.attached, t.find? u.label = none → d'.parent? u.label = d.parent? u.label
  /-- The element is attached, with the parent that it had. -/
  element : (∃ t' ∈ d'.attached, t'.label = t.label) ∧ d'.parent? t.label = d.parent? t.label

/-- Where an element stands in the same surroundings as before, nothing has changed outside of
it. -/
lemma Walk.StandsIn.sameOutside {φ : Walk.Surroundings} {s s' : Walk.State} {t u : Tree NodeId}
    (h : Walk.StandsIn φ s t) (h' : Walk.StandsIn φ s' u) (hroot : φ.root = Document.root) :
    s.document.SameOutside s'.document t := by
  obtain ⟨rest, hs, -⟩ := h.trees
  obtain ⟨rest', hs', -⟩ := h'.trees
  have hl : u.label = t.label := h'.label.trans h.label.symm
  have hbefore := hs.document.attached_eq (h.top.trans hroot)
  have hafter := hs'.document.attached_eq (h'.top.trans hroot)
  -- a node of the context has no parent in what fills the context
  have hparent {n : NodeId} (ht : t.parent? n = none) (hu : u.parent? n = none)
      (hn : n ∈ (φ.context.plug t).released) (hn' : n ∈ (φ.context.plug u).released) :
      s'.document.parent? n = s.document.parent? n := by
    rw [hs.document.parent?_eq hn, hs'.document.parent?_eq hn']
    exact Tree.parent?_plug_congr φ.context hl.symm (hu.trans ht.symm)
  have houtside {v : Tree NodeId} (hv : v ∈ s.document.attached) (hnone : t.find? v.label = none) :
      v.label ∈ φ.context.ids := by
    obtain ⟨C, hC⟩ := Tree.exists_plug_of_mem_nodes (hbefore ▸ hv)
    have hmem : v.label ∈ (φ.context.plug t).released :=
      hC ▸ Tree.mem_released_plug.2 (.inl (Tree.label_mem_released v))
    refine (Tree.mem_released_plug.1 hmem).resolve_left fun hm => ?_
    obtain ⟨w, hw⟩ := Tree.exists_find? hm
    rw [hnone] at hw
    cases hw
  refine ⟨fun v hv hnone => ?_, fun v hv hnone => ?_, ?_, ?_⟩
  · rcases Tree.exists_of_mem_plug hl (hbefore ▸ hv) with hv' | hv'
    · obtain ⟨C, rfl⟩ := Tree.exists_plug_of_mem_nodes hv'
      have hids := houtside hv hnone
      exact absurd hids (hs.document.notMem_ids
        (Tree.mem_released_plug.2 (.inl (Tree.label_mem_released v))))
    · rw [hafter]
      exact hv'
  · have hids := houtside hv hnone
    exact hparent
      (Tree.parent?_of_notMem fun hm => hs.document.notMem_ids hm hids)
      (Tree.parent?_of_notMem fun hm => hs'.document.notMem_ids hm hids)
      (Tree.mem_released_plug.2 (.inr hids)) (Tree.mem_released_plug.2 (.inr hids))
  · rw [hafter]
    exact ⟨u, Tree.nodes_subset_plug _ _ (Tree.self_mem_nodes u), hl⟩
  · refine hparent ?_ ?_ (Tree.mem_released_plug.2 (.inl (Tree.label_mem_released t)))
      (Tree.mem_released_plug.2 (.inl (hl ▸ Tree.label_mem_released u)))
    · exact Tree.parent?_label_eq_none (List.nodup_append.1 h.nodup).1
    · exact hl ▸ Tree.parent?_label_eq_none (List.nodup_append.1 h'.nodup).1

namespace Template

variable {t : Template}

/-- A walk that leaves the surroundings of elements changes nothing outside of the element where it
begins, where no element is left by a jump. -/
lemma Anchored.sameOutside (h : t.Anchored d)
    (hjump : ∀ u ∈ Tree.nodesOf d.trees, u.head.JumpFree e.dialect) {u : Tree NodeId}
    (hu : u ∈ d.attached) (helement : u.isElement = true) {walk : NodeId → Walk Unit}
    (hwalk : Walk.Confined e.dialect walk) :
    d.SameOutside (t.run d (walk u.label)).document u := by
  obtain ⟨ts, hts⟩ := h
  obtain ⟨root, rest, hp, hroot, -⟩ := hts.exists_top (.inl List.mem_cons_self)
  replace hts := hts.perm hp
  have hattached := (show d.Has (Tree.Context.top.plug root :: rest) from
    hts.document).attached_eq hroot
  obtain ⟨C, rfl⟩ := Tree.exists_plug_of_mem_nodes (hattached ▸ hu)
  have hfree {v : Tree NodeId} (hv : v ∈ C.plug u :: rest) : v.JumpFree e.dialect := fun w hw =>
    hjump w (Tree.mem_nodesOf.2 ⟨v, hts.document.trees.mem_iff.2 hv, hw⟩)
  let φ : Walk.Surroundings := ⟨e.dialect, Document.root, C, u.label, [], fun _ h => nomatch h⟩
  have hstands : Walk.StandsIn φ { document := d, stash := t.stash } u :=
    ⟨⟨rest, hts, fun v hv => hfree (List.mem_cons_of_mem _ hv)⟩, hroot, rfl, helement,
      fun _ h => nomatch h⟩
  have hopen : Walk.Open φ { document := d, stash := t.stash } :=
    ⟨u, hstands, fun w hw => hfree List.mem_cons_self w (Tree.nodes_subset_plug C u hw)⟩
  obtain ⟨v, hleft, -⟩ := (hwalk φ rfl).state hopen
  exact hstands.sameOutside hleft rfl

end Template

/-- A call for an element of a document that was read, after any calls, changes nothing outside of
the element, if by then no element is left by a jump. The call may succeed or fail. -/
theorem calls_confined {markup : String} (h : Document.parse markup = .ok d) (root : NodeId)
    (calls : List Call) :
    let left := (Template.ofRoot root).afterCalls e d calls
    (∀ t ∈ Tree.nodesOf left.2.trees, t.head.JumpFree e.dialect) →
      ∀ t ∈ left.2.attached, t.isElement = true → ∀ call : Call, call.element? = some t.label →
        left.2.SameOutside (call.run e left.1 left.2).document t := by
  intro left hjump t ht helement call hcall
  have hanchored : left.1.Anchored left.2 := (Template.anchored_of_parse h root).afterCalls calls
  cases call with
  | inject _ => cases hcall
  | reset => cases hcall
  | injectElement n value =>
    obtain rfl : n = t.label := Option.some.inj hcall
    simp only [Call.run, Template.injectElement]
    split
    · exact hanchored.sameOutside hjump ht helement (Walk.confined_reset _ _)
    · exact hanchored.sameOutside hjump ht helement (Walk.confined_injectSubtree ⟨e, value⟩ _ value)
  | resetElement n =>
    obtain rfl : n = t.label := Option.some.inj hcall
    exact hanchored.sameOutside hjump ht helement (Walk.confined_reset _ _)

set_option maxRecDepth 2000 in
/-- A list is filled by itself after its document was injected as a whole. A fault in the title of
an item stops that call, and the text before the list stays what the first model made of it. -/
theorem calls_confined_stopped : ∃ d,
    Document.parse "<p data-text=\"a\">x</p><ul data-list=\"b\"><li data-attr=\"::\"></li></ul>" =
      .ok d ∧
    let left := (Template.ofRoot Document.root).afterCalls {} d
      [.inject (.map [("a", .string "A"), ("b", .list [])])]
    ∃ t ∈ left.2.attached,
      let after := (Call.injectElement t.label (.list [.string "1"])).run {} left.1 left.2
      t.tag = "ul" ∧ after.result.isOk = false ∧
      after.document.markup =
        "<p data-text=\"a\">A</p><ul data-list=\"b\"><li data-attr=\"::\"/></ul>" ∧
      left.2.SameOutside after.document t := by
  let calls : List Call := [.inject (.map [("a", .string "A"), ("b", .list [])])]
  obtain ⟨d, hparse, hjump, t, ht, helement, htag, hresult, hmarkup⟩ := exists_ok_of_check
    (Document.parse "<p data-text=\"a\">x</p><ul data-list=\"b\"><li data-attr=\"::\"></li></ul>")
    (p := fun d =>
      let left := (Template.ofRoot Document.root).afterCalls {} d calls
      (∀ t ∈ Tree.nodesOf left.2.trees, t.head.JumpFree Dialect.standard) ∧
        ∃ t ∈ left.2.attached, t.isElement = true ∧ t.tag = "ul" ∧
          ((Call.injectElement t.label (.list [.string "1"])).run {} left.1 left.2).result.isOk =
            false ∧
          ((Call.injectElement t.label (.list [.string "1"])).run {} left.1
            left.2).document.markup =
            "<p data-text=\"a\">A</p><ul data-list=\"b\"><li data-attr=\"::\"/></ul>")
    (by decide +kernel)
  exact ⟨d, hparse, t, ht, htag, hresult, hmarkup,
    calls_confined (e := {}) hparse Document.root calls hjump t ht helement _ rfl⟩

end TreeTemplate
