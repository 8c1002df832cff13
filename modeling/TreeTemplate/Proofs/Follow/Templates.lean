import TreeTemplate.Proofs.Follow.Content

/-!
# Taking templates out of an element, followed

The templates of a list or a map are what its element has in stock, or else they are taken out of
it.

Main statements:

* `Holds.itemTemplate`, `Holds.entryTemplates` — the template of the items and those of the entries.
-/

namespace TreeTemplate

open Stocked (ownEntries storedOf)

variable {here : Place} {φ : Frame} {s : Walk.State} {P : Element NodeId} {head : Head}
  {ts before after : List (Stocked NodeId)}

namespace Stocked

variable {ι : Type} {t : Stocked ι} {us rest : List (Stocked ι)}

/-- The first element stands behind texts. -/
lemma eraseP_isElement (h : us.filter isElement = t :: rest) :
    ∃ before after, us = before ++ t :: after ∧ (before ++ after).filter isElement = rest ∧
      us.eraseP isElement = before ++ after := by
  obtain ⟨u, before, after, hbefore, hu, rfl, herase⟩ :=
    List.exists_of_eraseP (p := isElement) (List.mem_filter.1 (h ▸ List.mem_cons_self)).1
      (List.mem_filter.1 (h ▸ List.mem_cons_self : t ∈ us.filter isElement)).2
  have hnone : before.filter isElement = [] :=
    List.filter_eq_nil_iff.2 hbefore
  rw [List.filter_append, hnone, List.nil_append, List.filter_cons_of_pos hu] at h
  obtain ⟨rfl, hrest⟩ := List.cons.inj h
  exact ⟨before, after, rfl, by rw [List.filter_append, hnone, List.nil_append, hrest], herase⟩

/-- It does not matter whether the first element is left out before or after the labels are taken
away. -/
lemma eraseP_bare (us : List (Stocked ι)) :
    (us.map bare).eraseP isElement = (us.eraseP isElement).map bare := by
  rw [List.eraseP_map]
  congr 2
  funext t
  exact isElement_bare t

end Stocked

namespace Element

/-- The elements below an element without labels are those below it, without labels. -/
lemma elements_bare (P : Element NodeId) : P.bare.elements = P.elements.map Stocked.bare := by
  simp [elements, bare, List.filter_map, Function.comp_def]

/-- The elements below the tree of an element are the trees of those below it. -/
lemma elements_tree (P : Element NodeId) (n : NodeId) :
    (P.labelled n).tree.elements = P.elements.map Stocked.tree := by
  simp [elements, labelled, Tree.elements, Tree.children, List.filter_map, Function.comp_def]

end Element

namespace Walk

variable {n key value : NodeId} {d d' : Document}

/-- Takes a node out of the tree it is in. -/
def detach (n : NodeId) : Walk Unit :=
  edit n fun n d => d.detach? n

/-- A node that can be taken out is. -/
lemma run_detach (h : s.document.detach? n = some d) :
    detach n s = (.ok (), { s with document := d }) :=
  run_edit h

/-- A template that can be taken out is stashed for a list. -/
lemma run_stashItem (h : s.document.detach? n = some d) :
    stashTemplates here.node (.item n) s =
      (.ok (), { s with document := d, stash := s.stash.insert here.node (.item n) }) := by
  have hall : [n].forM detach s = (.ok (), { s with document := d }) :=
    (run_forM_cons_of_ok (run_detach h)).trans rfl
  exact (run_bind_of_ok hall).trans rfl

/-- Two templates that can be taken out are stashed for a map. -/
lemma run_stashEntry (hkey : s.document.detach? key = some d)
    (hvalue : d.detach? value = some d') :
    stashTemplates here.node (.entry key value) s = (.ok (),
      { s with document := d', stash := s.stash.insert here.node (.entry key value) }) := by
  have hdetach : detach value { s with document := d } = (.ok (), { s with document := d' }) :=
    run_detach hvalue
  have hall : [key, value].forM detach s = (.ok (), { s with document := d' }) :=
    (run_forM_cons_of_ok (run_detach hkey)).trans ((run_forM_cons_of_ok hdetach).trans rfl)
  exact (run_bind_of_ok hall).trans rfl

end Walk

namespace Holds

/-- The template of the items of a list, taken out of the element if it is still there. -/
lemma itemTemplate (hfit : P.bare.whole.Fit) (h : Holds s here φ P) :
    (∃ template Q d stash, Walk.itemTemplate here.node s =
        (.ok template.label, { s with document := d, stash := stash }) ∧
      Local.itemTemplate P.bare = ⟨.ok template.bare, Q.bare, []⟩ ∧
      Holds { s with document := d, stash := stash } here φ Q ∧ Q.stock = [template]) ∨
    ∃ cause, Walk.itemTemplate here.node s = (.error (.fault ⟨cause, none⟩), s) ∧
      Local.itemTemplate P.bare = ⟨.error ⟨cause, none⟩, P.bare, []⟩ := by
  classical
  have hfind := h.find?_stash
  obtain ⟨head, stock, children⟩ := P
  match stock with
  | [template] =>
    refine .inl ⟨template, _, s.document, s.stash, ?_, rfl, h, rfl⟩
    simp only [Walk.itemTemplate, Walk.run_get, hfind, storedOf, Walk.run_pure]
  | [key, value] =>
    refine .inr ⟨.holdsEntryTemplates, ?_, rfl⟩
    simp only [Walk.itemTemplate, Walk.run_get, hfind, storedOf, Walk.run_refuse]
  | _ :: _ :: _ :: _ =>
    simp [Element.bare, Element.whole, Element.labelled, Stocked.fit_element] at hfit
  | [] =>
    -- without a stock the first element among the children becomes the template
    have helements := Element.elements_tree ⟨head, [], children⟩ here.node
    have hbare := Element.elements_bare ⟨head, [], children⟩
    cases e : Element.elements ⟨head, [], children⟩ with
    | nil =>
      rw [e] at helements hbare
      refine .inr ⟨.missingItem (Element.shell ⟨head, [], children⟩).describe, ?_, ?_⟩
      · simp only [Walk.itemTemplate, Walk.run_get, hfind, storedOf,
          Walk.run_bind_of_ok h.run_node, helements, List.map_nil]
        rfl
      · simp only [Local.itemTemplate]
        rw [hbare]
        rfl
    | cons template rest =>
      rw [e] at helements hbare
      obtain ⟨before, after, rfl, -, herase⟩ := Stocked.eraseP_isElement e
      have hdocument := h.document
      simp only [Element.labelled, Stocked.tree_element, List.map_append, List.map_cons]
        at hdocument
      obtain ⟨d, hdetach, hd⟩ := hdocument.detach?
      rw [Stocked.label_tree] at hdetach
      refine .inl ⟨template, ⟨head, [template], before ++ after⟩, d,
        s.stash.insert here.node (.item template.label), ?_, ?_, ⟨?_, ?_, h.positions, h.depth⟩,
        rfl⟩
      · simp only [Walk.itemTemplate, Walk.run_get, hfind, storedOf,
          Walk.run_bind_of_ok h.run_node, helements, List.map_cons, Stocked.label_tree,
          Walk.run_bind_of_ok (Walk.run_stashItem hdetach), Walk.run_pure]
      · simp only [Local.itemTemplate]
        rw [hbare]
        simp only [Element.bare, Element.stockUp, List.map_nil, List.map_cons, Stocked.eraseP_bare,
          herase]
      · refine hd.perm (List.perm_iff_count.2 fun t => ?_)
        simp only [Element.labelled, Stocked.tree_element, Stocked.roots_element, List.map_append,
          List.map_cons, List.map_nil, List.flatMap_append, List.flatMap_cons, List.flatMap_nil,
          List.count_append, List.count_cons, List.count_nil]
        omega
      · refine (h.stash.cons (here.node, .item template.label)).trans
          (List.perm_iff_count.2 fun entry => ?_)
        simp only [Element.labelled, Stocked.entries_element, ownEntries, storedOf,
          Option.toList_some, Option.toList_none, List.map_cons, List.map_nil,
          List.flatMap_append, List.flatMap_cons, List.flatMap_nil, List.count_append,
          List.count_cons, List.count_nil]
        omega

/-- The templates of the keys and the values of a map, taken out of the element if they are still
there. -/
lemma entryTemplates (hfit : P.bare.whole.Fit) (h : Holds s here φ P) :
    (∃ key value Q d stash, Walk.entryTemplates here.node s =
        (.ok (key.label, value.label), { s with document := d, stash := stash }) ∧
      Local.entryTemplates P.bare = ⟨.ok (key.bare, value.bare), Q.bare, []⟩ ∧
      Holds { s with document := d, stash := stash } here φ Q ∧ Q.stock = [key, value]) ∨
    ∃ cause, Walk.entryTemplates here.node s = (.error (.fault ⟨cause, none⟩), s) ∧
      Local.entryTemplates P.bare = ⟨.error ⟨cause, none⟩, P.bare, []⟩ := by
  classical
  have hfind := h.find?_stash
  obtain ⟨head, stock, children⟩ := P
  match stock with
  | [template] =>
    refine .inr ⟨.holdsItemTemplate, ?_, rfl⟩
    simp only [Walk.entryTemplates, Walk.run_get, hfind, storedOf, Walk.run_refuse]
  | [key, value] =>
    refine .inl ⟨key, value, _, s.document, s.stash, ?_, rfl, h, rfl⟩
    simp only [Walk.entryTemplates, Walk.run_get, hfind, storedOf, Walk.run_pure]
  | _ :: _ :: _ :: _ =>
    simp [Element.bare, Element.whole, Element.labelled, Stocked.fit_element] at hfit
  | [] =>
    -- without a stock the first two elements among the children become the templates
    have helements := Element.elements_tree ⟨head, [], children⟩ here.node
    have hbare := Element.elements_bare ⟨head, [], children⟩
    rcases e : Element.elements ⟨head, [], children⟩ with _ | ⟨key, _ | ⟨value, rest⟩⟩
    · rw [e] at helements hbare
      refine .inr ⟨.missingKey (Element.shell ⟨head, [], children⟩).describe, ?_, ?_⟩
      · simp only [Walk.entryTemplates, Walk.run_get, hfind, storedOf,
          Walk.run_bind_of_ok h.run_node, helements, List.map_nil]
        rfl
      · simp only [Local.entryTemplates]
        rw [hbare]
        rfl
    · rw [e] at helements hbare
      refine .inr ⟨.missingValue (Element.shell ⟨head, [], children⟩).describe, ?_, ?_⟩
      · simp only [Walk.entryTemplates, Walk.run_get, hfind, storedOf,
          Walk.run_bind_of_ok h.run_node, helements, List.map_cons, List.map_nil]
        rfl
      · simp only [Local.entryTemplates]
        rw [hbare]
        rfl
    · rw [e] at helements hbare
      obtain ⟨before, after, rfl, hvalue, herase⟩ := Stocked.eraseP_isElement e
      -- the second one is looked for among what the first one has left
      obtain ⟨before', after', he, -, herase'⟩ := Stocked.eraseP_isElement hvalue
      have hdocument := h.document
      simp only [Element.labelled, Stocked.tree_element, List.map_append, List.map_cons]
        at hdocument
      obtain ⟨d, hdetach, hd⟩ := hdocument.detach?
      rw [← List.map_append, he, List.map_append, List.map_cons] at hd
      obtain ⟨d', hdetach', hd'⟩ := hd.detach?
      rw [Stocked.label_tree] at hdetach hdetach'
      refine .inl ⟨key, value, ⟨head, [key, value], before' ++ after'⟩, d',
        s.stash.insert here.node (.entry key.label value.label), ?_, ?_,
        ⟨?_, ?_, h.positions, h.depth⟩, rfl⟩
      · simp only [Walk.entryTemplates, Walk.run_get, hfind, storedOf,
          Walk.run_bind_of_ok h.run_node, helements, List.map_cons, Stocked.label_tree,
          Walk.run_bind_of_ok (Walk.run_stashEntry hdetach hdetach'), Walk.run_pure]
      · simp only [Local.entryTemplates]
        rw [hbare]
        simp only [Element.bare, Element.stockUp, List.map_nil, List.map_cons, Stocked.eraseP_bare,
          herase, herase']
      · have hroots : before.flatMap Stocked.roots ++ after.flatMap Stocked.roots =
            before'.flatMap Stocked.roots ++ (value.roots ++ after'.flatMap Stocked.roots) := by
          rw [← List.flatMap_append, he, List.flatMap_append, List.flatMap_cons]
        refine hd'.perm (List.perm_iff_count.2 fun t => ?_)
        have hroots := congrArg (List.count t) hroots
        simp only [Element.labelled, Stocked.tree_element, Stocked.roots_element, List.map_append,
          List.map_cons, List.map_nil, List.flatMap_append, List.flatMap_cons, List.flatMap_nil,
          List.count_append, List.count_cons, List.count_nil] at hroots ⊢
        omega
      · have hentries : before.flatMap Stocked.entries ++ after.flatMap Stocked.entries =
            before'.flatMap Stocked.entries ++
              (value.entries ++ after'.flatMap Stocked.entries) := by
          rw [← List.flatMap_append, he, List.flatMap_append, List.flatMap_cons]
        refine (h.stash.cons (here.node, .entry key.label value.label)).trans
          (List.perm_iff_count.2 fun entry => ?_)
        have hentries := congrArg (List.count entry) hentries
        simp only [Element.labelled, Stocked.entries_element, ownEntries, storedOf,
          Option.toList_some, Option.toList_none, List.map_cons, List.map_nil,
          List.flatMap_append, List.flatMap_cons, List.flatMap_nil, List.count_append,
          List.count_cons, List.count_nil] at hentries ⊢
        omega

end Holds

end TreeTemplate
