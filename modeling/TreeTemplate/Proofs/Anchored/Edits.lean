import TreeTemplate.Proofs.Anchored.Basic
import TreeTemplate.Proofs.Forest.Restyles

/-!
# Edits below the tops of trees

What each edit of a walk does to the trees of a document in which templates are tops of trees. Apart
from templates that are taken out of an element, which become tops, an edit works below the top of
one tree and leaves the tops of all trees as they are.

Main statements:

* `Anchors.replaceChildren`, `Anchors.setMarkup` — new nodes below an element;
* `Anchors.plantAppend` — a new tree behind the nodes below an element;
* `Anchors.stashTemplates` — templates become tops of trees.
-/

namespace TreeTemplate.Walk

/-- Takes a node out of the tree it is in. -/
def takeOut (n : NodeId) : Walk Unit :=
  edit n fun n d => d.detach? n

namespace Anchors

variable {s s' : State} {kept more : List NodeId} {ts us rest picked : List (Tree NodeId)}
  {n m : NodeId} {t u : Tree NodeId} {C : Tree.Context} {f : Tree NodeId → Tree NodeId}
  {tag : String} {attrs : List (String × String)} {hidden : Bool} {stored : Stored}

/-- It does not matter in which order the kept nodes are. -/
lemma kept_perm (h : Anchors s kept ts) (hp : kept.Perm more) : Anchors s more ts where
  document := h.document
  keys := h.keys
  tops n := hp.count_eq n ▸ h.tops n

/-- A change of a node itself. -/
lemma editNode (h : Anchors s kept (C.plug t :: rest)) (hf : t.Restyles (f t)) :
    ∃ d, Walk.editNode t.label f s = (.ok (), { s with document := d }) ∧
      Anchors { s with document := d } kept (C.plug (f t) :: rest) := by
  obtain ⟨d, e, hd⟩ := h.document.update? (f := f) (hf.released ▸ .refl _)
  exact ⟨d, run_edit e, h.exchange rfl hd hf.label hf.isElement⟩

/-- Children are removed. -/
lemma removeChildrenWhere (h : Anchors s kept (C.plug t :: rest)) (test : Tree NodeId → Bool) :
    ∃ d, s.document.removeChildrenWhere? t.label test = some d ∧
      Anchors { s with document := d } kept
        (C.plug (t.setChildren (t.children.filter fun u => !test u)) :: rest) := by
  obtain ⟨d, e, hd⟩ := h.document.removeChildrenWhere?_plug test
  exact ⟨d, e, h.exchange rfl hd (by cases t <;> rfl) (by cases t <;> rfl)⟩

/-- New trees take the place of everything below an element. -/
lemma replaceChildren {ι : Type}
    (h : Anchors s kept (C.plug (.element m tag attrs hidden ts) :: rest))
    (us : List (Tree ι)) :
    ∃ (planted : List (Tree NodeId)) (d : Document),
      s.document.replaceChildren? m us = some d ∧
      Tree.relabelAll (fun _ => ()) planted = Tree.relabelAll (fun _ => ()) us ∧
      Anchors { s with document := d } kept
      (C.plug (.element m tag attrs hidden planted) :: rest) := by
  obtain ⟨planted, d, e, hbare, hd⟩ := h.document.replaceChildren? us
  exact ⟨planted, d, e, hbare, h.exchange rfl hd rfl rfl⟩

/-- Markup takes the place of everything below an element. -/
lemma setMarkup (h : Anchors s kept (C.plug (.element m tag attrs hidden ts) :: rest))
    (markup : String) :
    ∃ (planted : List (Tree NodeId)) (d : Document),
      s.document.setMarkup? m markup = some (d, (Markup.read markup).fault?) ∧
      Anchors { s with document := d } kept
      (C.plug (.element m tag attrs hidden planted) :: rest) := by
  obtain ⟨planted, d, e, -, hd⟩ := h.document.setMarkup? markup
  exact ⟨planted, d, e, h.exchange rfl hd rfl rfl⟩

/-- A new tree is one more tree. -/
lemma plant {ι : Type} (h : Anchors s kept ts) (x : Tree ι) :
    ∃ u d, s.document.plant x = (u.label, d) ∧ u.bare = x.bare ∧
      Anchors { s with document := d } kept (u :: ts) := by
  obtain ⟨u, d, e, hbare, hd⟩ := h.document.plant x
  refine ⟨u, d, e, hbare, hd, h.keys, fun n => Nat.le_trans (h.tops n) ?_⟩
  exact (((List.sublist_cons_self u ts).filter _).map _).count_le n

/-- A new tree is put behind the nodes below an element. -/
lemma plantAppend {ι : Type} (h : Anchors s kept (C.plug (.element m tag attrs hidden ts) :: rest))
    (x : Tree ι) :
    ∃ u d d', s.document.plant x = (u.label, d) ∧ d.append? m u.label = some d' ∧
      u.bare = x.bare ∧ Anchors { s with document := d' } kept
        (C.plug (.element m tag attrs hidden (ts ++ [u])) :: rest) := by
  obtain ⟨u, d, e, hbare, hd⟩ := h.document.plant x
  obtain ⟨d', e', hd'⟩ := hd.append?
  exact ⟨u, d, d', e, e', hbare, h.exchange rfl hd' rfl rfl⟩

/-- A child that is taken out of an element becomes the top of a tree. -/
lemma detach (h : Anchors s kept (C.plug (.element m tag attrs hidden (ts ++ t :: us)) :: rest))
    (ht : t.isElement = true) :
    ∃ d, takeOut t.label s = (.ok (), { s with document := d }) ∧
      Anchors { s with document := d } (t.label :: kept)
        (C.plug (.element m tag attrs hidden (ts ++ us)) :: t :: rest) := by
  obtain ⟨d, e, hd⟩ := h.document.detach?
  refine ⟨d, run_edit e, hd, h.keys, fun n => ?_⟩
  obtain ⟨hl, he⟩ := Tree.plug_top C (t := .element m tag attrs hidden (ts ++ t :: us))
    (u := .element m tag attrs hidden (ts ++ us)) rfl rfl
  have hle := h.tops n
  rw [← Tree.tops_cons_congr hl he] at hle
  have htops : (Tree.tops (C.plug (.element m tag attrs hidden (ts ++ us)) :: t :: rest)).Perm
      (t.label :: Tree.tops (C.plug (.element m tag attrs hidden (ts ++ us)) :: rest)) := by
    refine (Tree.tops_perm (List.Perm.swap ..)).trans (.of_eq ?_)
    rw [Tree.tops, List.filter_cons_of_pos ht]
    rfl
  rw [htops.count_eq]
  simp only [List.count_cons]
  omega

/-- Elements that are taken out of an element become tops of trees. -/
lemma detachAll (h : Anchors s kept (C.plug (.element m tag attrs hidden ts) :: rest))
    (hpicked : picked.Sublist ts) (helements : ∀ t ∈ picked, t.isElement = true) :
    ∃ (d : Document) (left : List (Tree NodeId)),
      (picked.map Tree.label).forM takeOut s = (.ok (), { s with document := d }) ∧
        left.Sublist ts ∧
      Anchors { s with document := d } (picked.map Tree.label ++ kept)
        (C.plug (.element m tag attrs hidden left) :: (picked ++ rest)) := by
  induction picked generalizing s ts kept rest with
  | nil => exact ⟨s.document, ts, rfl, .refl _, h⟩
  | cons p picked ih =>
    obtain ⟨before, after, rfl, hp, hlater⟩ := List.cons_sublist_iff.1 hpicked
    obtain ⟨first, last, rfl⟩ := List.append_of_mem hp
    rw [List.append_assoc, List.cons_append] at h
    obtain ⟨d, e, hd⟩ := h.detach (helements p List.mem_cons_self)
    have hsub : picked.Sublist (first ++ (last ++ after)) :=
      hlater.trans ((List.sublist_append_right last after).trans (List.sublist_append_right ..))
    obtain ⟨d', left, e', hleft, hd'⟩ :=
      ih hd hsub fun t ht => helements t (List.mem_cons_of_mem _ ht)
    refine ⟨d', left, (run_forM_cons_of_ok e).trans e', ?_, ?_⟩
    · refine hleft.trans ?_
      rw [List.append_assoc, List.cons_append]
      exact (List.sublist_cons_self p _).append_left first
    · exact (hd'.kept_perm List.perm_middle).perm (List.perm_middle.cons _)

/-- Templates are taken out of an element that has nothing stashed, and stashed for it. -/
lemma stashTemplates (h : Anchors s kept (C.plug (.element n tag attrs hidden ts) :: rest))
    (hnone : s.stash.find? n = none) (hpicked : picked.Sublist ts)
    (helements : ∀ t ∈ picked, t.isElement = true)
    (hstored : stored.templates = picked.map Tree.label) :
    ∃ (s' : State) (left : List (Tree NodeId)),
      Walk.stashTemplates n stored s = (.ok (), s') ∧ left.Sublist ts ∧
      s'.stash.entries = (n, stored) :: s.stash.entries ∧
      Anchors s' kept (C.plug (.element n tag attrs hidden left) :: (picked ++ rest)) := by
  obtain ⟨d, left, e, hleft, hd⟩ := h.detachAll hpicked helements
  rw [← hstored] at e hd
  refine ⟨{ s with document := d, stash := s.stash.insert n stored }, left, run_bind_of_ok e, hleft,
    rfl, hd.document, ?_, fun k => ?_⟩
  · have hn : n ∉ s.stash.entries.map Prod.fst := fun hmem => by
      obtain ⟨⟨k, found⟩, hentry, rfl⟩ := List.mem_map.1 hmem
      rw [Stash.find?, lookup_of_mem hentry h.keys] at hnone
      cases hnone
    exact List.nodup_cons.2 ⟨hn, h.keys⟩
  · have hle := hd.tops k
    simp only [Stash.templates, Stash.insert, List.flatMap_cons, List.count_append] at hle ⊢
    omega

end Anchors

end TreeTemplate.Walk
