import TreeTemplate.Proofs.Follow.Frame
import TreeTemplate.Proofs.Follow.Run

/-!
# Forgetting templates

Forgetting what is below an element removes the templates that are stashed for the elements below
it, and those inside these templates, and nothing else. It needs that nothing was taken out of a
template itself, since a walk looks below the top of a template only.

Main statements:

* `Holds.forgetBelow` — the children of an element lose their stock.
-/

namespace TreeTemplate

open TreeTemplate.Tree (releasedOf)
open Stocked (ownEntries storedOf)

/-- A state has the templates of some trees beside other trees, and their entries beside others. -/
structure Stocks (s : Walk.State) (ts : List (Stocked NodeId)) (others : List (Tree NodeId))
    (rest : List (NodeId × Stored)) : Prop where
  document : s.document.Has (ts.flatMap Stocked.roots ++ others)
  stash : s.stash.entries.Perm (ts.flatMap Stocked.entries ++ rest)
  keys : ∀ n, (ts.flatMap Stocked.labels).count n + (rest.map Prod.fst).count n ≤ 1

/-- A walk leaves only other trees and other entries. -/
def Forgets (walk : Walk Unit) (s : Walk.State) (others : List (Tree NodeId))
    (rest : List (NodeId × Stored)) : Prop :=
  ∃ d stash, walk s = (.ok (), { s with document := d, stash := stash }) ∧ d.Has others ∧
    stash.entries.Perm rest

/-- Takes what is stashed for an element and removes it, with what is stashed inside. -/
def Walk.forgetStored (room : Nat) (element : NodeId) : Walk Unit := do
  match ← takeStored element with
  | none => pure ()
  | some stored => do
    stored.templates.forM (forgetWithin room)
    stored.templates.forM remove

/-- There is room enough to forget what is stashed below an element. -/
def Walk.ForgetsBelow (room : Nat) : Prop :=
  ∀ {s : Walk.State} {C : Tree.Context} {n : NodeId} {head : Head} {ts : List (Stocked NodeId)}
    {others : List (Tree NodeId)} {rest : List (NodeId × Stored)},
    (∀ t ∈ ts, t.Fit ∧ t.Tidy) → (ts.flatMap Stocked.entries).length ≤ room →
    Stocks s ts (C.plug (Stocked.element n head [] ts).tree :: others) rest →
    Forgets (forgetWithin room n) s (C.plug (Stocked.element n head [] ts).tree :: others) rest

namespace Stocked

/-- Without an entry there is no template. -/
lemma roots_eq_nil {t : Stocked NodeId} (hfit : t.Fit) (h : t.entries = []) : t.roots = [] := by
  induction t using Stocked.induct with
  | element n head stock children hstock hchildren =>
    obtain ⟨hlength, -, hfits⟩ := fit_element.1 hfit
    simp only [entries_element, List.append_eq_nil_iff, List.flatMap_eq_nil_iff] at h
    obtain ⟨⟨hown, -⟩, hc⟩ := h
    have hnil : stock = [] := by
      match stock with
      | [] => rfl
      | [_] => cases hown
      | [_, _] => cases hown
      | _ :: _ :: _ :: _ => simp at hlength
    subst hnil
    simp only [roots_element, List.map_nil, List.flatMap_nil, List.nil_append,
      List.flatMap_eq_nil_iff]
    exact fun t ht => hchildren t ht (hfits t ht) (hc t ht)
  | text label content => rfl

/-- The templates that are stored for an element are those in its stock. -/
lemma storedOf_templates {stock : List (Stocked NodeId)} {stored : Stored}
    (h : storedOf stock = some stored) : stored.templates = stock.map label := by
  match stock with
  | [] => cases h
  | [_] => cases h; rfl
  | [_, _] => cases h; rfl
  | _ :: _ :: _ :: _ => cases h

end Stocked

namespace Walk

variable {s : State} {room : Nat} {n : NodeId} {head : Head} {others : List (Tree NodeId)}
  {rest : List (NodeId × Stored)} {stock ts : List (Stocked NodeId)}

/-- Templates are forgotten one after another, and their trees stay. -/
lemma forgets_templates (hroom : ForgetsBelow room)
    (hts : ∀ t ∈ ts, t.isElement = true ∧ t.stock = [] ∧ t.Fit ∧ t.Tidy)
    (hlength : (ts.flatMap Stocked.entries).length ≤ room)
    (h : Stocks s ts (ts.map Stocked.tree ++ others) rest) :
    Forgets ((ts.map Stocked.label).forM (forgetWithin room)) s
      (ts.map Stocked.tree ++ others) rest := by
  classical
  induction ts generalizing s others with
  | nil => exact ⟨s.document, s.stash, rfl, h.document, h.stash⟩
  | cons t ts ih =>
    obtain ⟨helement, hstock, hfit, htidy⟩ := hts t List.mem_cons_self
    cases t with
    | text => cases helement
    | element m head stock children =>
      cases hstock
      have hentries : (Stocked.element m head [] children).entries =
          children.flatMap Stocked.entries := by simp [Stocked.ownEntries, Stocked.storedOf]
      have hlabels : (Stocked.element m head [] children).labels =
          m :: children.flatMap Stocked.labels := by simp
      have hroots : (Stocked.element m head [] children).roots =
          children.flatMap Stocked.roots := by simp
      rw [List.flatMap_cons, hentries, List.length_append] at hlength
      have hkeys := h.keys
      simp only [List.flatMap_cons, hlabels, List.count_append, List.count_cons] at hkeys
      -- what belongs to the templates still to come counts among the others meanwhile
      have hbelow : Stocks s children
          (Tree.Context.top.plug (Stocked.element m head [] children).tree ::
            (ts.map Stocked.tree ++ ts.flatMap Stocked.roots ++ others))
          (ts.flatMap Stocked.entries ++ rest) := by
        refine ⟨h.document.perm (List.perm_iff_count.2 fun t => ?_),
          h.stash.trans (List.perm_iff_count.2 fun entry => ?_), fun n => ?_⟩
        · simp only [List.flatMap_cons, hroots, List.map_cons, List.cons_append,
            List.count_append, List.count_cons, Tree.Context.plug]
          omega
        · simp only [List.flatMap_cons, hentries, List.count_append]
          omega
        · have := Stocked.count_keysOf_le n ts
          have := hkeys n
          simp only [List.map_append, List.count_append]
          omega
      obtain ⟨d, stash, hwalk, hd, hs⟩ := hroom
        (fun t ht => ⟨(Stocked.fit_element.1 hfit).2.2 t ht, (Stocked.tidy_element.1 htidy).2 t ht⟩)
        (by omega) hbelow
      have hlater : Stocks { s with document := d, stash := stash } ts
          (ts.map Stocked.tree ++ (Stocked.element m head [] children).tree :: others) rest := by
        refine ⟨hd.perm (List.perm_iff_count.2 fun t => ?_), hs, fun n => ?_⟩
        · simp only [List.count_append, List.count_cons, Tree.Context.plug]
          omega
        · have := hkeys n
          omega
      obtain ⟨d', stash', hwalk', hd', hs'⟩ :=
        ih (fun t ht => hts t (List.mem_cons_of_mem _ ht)) (by omega) hlater
      exact ⟨d', stash', (run_forM_cons_of_ok hwalk).trans hwalk',
        hd'.perm List.perm_middle, hs'⟩

/-- Trees are removed one after another. -/
lemma forgets_trees (h : s.document.Has (ts.map Stocked.tree ++ others)) :
    Forgets ((ts.map Stocked.label).forM remove) s others s.stash.entries := by
  induction ts generalizing s with
  | nil => exact ⟨s.document, s.stash, rfl, h, .refl _⟩
  | cons t ts ih =>
    obtain ⟨d, e, hd⟩ := Document.Has.remove? h
    rw [Stocked.label_tree] at e
    obtain ⟨d', stash, hwalk, hd', hs⟩ := ih (s := { s with document := d }) hd
    have hremove : remove t.label s = (.ok (), { s with document := d }) := run_edit e
    exact ⟨d', stash, (run_forM_cons_of_ok hremove).trans hwalk, hd', hs⟩

/-- What is stashed for an element is forgotten with its templates. -/
lemma forgets_stored (hroom : ForgetsBelow room)
    (hts : ∀ t ∈ ts, t.isElement = true ∧ t.stock = [] ∧ t.Fit ∧ t.Tidy)
    (hlength : (ts.flatMap Stocked.entries).length ≤ room) (hcount : ts.length ≤ 2)
    (hd : s.document.Has (ts.map Stocked.tree ++ ts.flatMap Stocked.roots ++ others))
    (hs : s.stash.entries.Perm (ownEntries n ts ++ (ts.flatMap Stocked.entries ++ rest)))
    (hkeys : ∀ m, [n].count m + (ts.flatMap Stocked.labels).count m +
      (rest.map Prod.fst).count m ≤ 1) :
    Forgets (forgetStored room n) s others rest := by
  classical
  have hrest (m : NodeId) := Stocked.count_keysOf_le m ts
  have hnodup : (s.stash.entries.map Prod.fst).Nodup := by
    refine List.nodup_iff_count_le_one.2 fun m => ?_
    have := hkeys m
    have := hrest m
    have := Stocked.count_ownKeys_le m n ts
    rw [(hs.map _).count_eq, List.map_append, List.map_append, List.count_append,
      List.count_append]
    omega
  have hn : n ∉ (ts.flatMap Stocked.entries ++ rest).map Prod.fst := by
    refine List.count_eq_zero.1 ?_
    have hkey := hkeys n
    have := hrest n
    rw [List.count_singleton_self] at hkey
    rw [List.map_append, List.count_append]
    omega
  -- the element has no second entry, so that what is left belongs to others
  obtain ⟨left, htake, hleft⟩ := Stash.take?_of_perm hs hnodup hn
  cases hstored : storedOf ts with
  | none =>
    have hnil : ts = [] := by
      match ts with
      | [] => rfl
      | [_] => cases hstored
      | [_, _] => cases hstored
      | _ :: _ :: _ :: _ => simp at hcount
    subst hnil
    rw [hstored] at htake
    refine ⟨s.document, s.stash, ?_, by simpa using hd, by simpa [ownEntries, storedOf] using hs⟩
    have htaken : takeStored n s = (.ok none, s) := by
      simp only [takeStored, run_get, htake, Option.map_none, run_pure]
    exact (run_bind_of_ok htaken).trans rfl
  | some stored =>
    rw [hstored] at htake
    have htaken : takeStored n s = (.ok (some stored), { s with stash := left }) := by
      simp only [takeStored, run_get, htake, Option.map_some]
      rfl
    have hinside : Stocks { s with stash := left } ts (ts.map Stocked.tree ++ others) rest := by
      refine ⟨hd.perm (List.perm_iff_count.2 fun t => ?_), hleft, fun m => ?_⟩
      · simp only [List.count_append]
        omega
      · have := hkeys m
        omega
    -- the templates lose what is stashed below them, and then they are removed themselves
    obtain ⟨d, stash, hwalk, hd, hs⟩ := forgets_templates hroom hts hlength hinside
    obtain ⟨d', stash', hwalk', hd', hs'⟩ :=
      forgets_trees (s := { s with document := d, stash := stash }) hd
    refine ⟨d', stash', ?_, hd', hs'.trans hs⟩
    refine (run_bind_of_ok htaken).trans ?_
    rw [← Stocked.storedOf_templates hstored] at hwalk hwalk'
    exact (run_bind_of_ok hwalk).trans hwalk'

/-- The identities of a node and of the elements below it, if it is an element. -/
def elementsFrom (t : Stocked NodeId) : List NodeId :=
  if t.isElement then t.label :: t.tree.elementsBackward else []

/-- There is room enough to forget what is stashed for the elements of a tree. -/
def ForgetsFrom (room : Nat) (t : Stocked NodeId) : Prop :=
  ∀ {s : State} {others : List (Tree NodeId)} {rest : List (NodeId × Stored)},
    t.entries.length ≤ room + 1 → Stocks s [t] others rest →
    Forgets ((elementsFrom t).forM (forgetStored room)) s others rest

/-- The trees of a list are gone through, the last ones first. -/
lemma forgets_elementsOf (hts : ∀ t ∈ ts, ForgetsFrom room t)
    (hlength : (ts.flatMap Stocked.entries).length ≤ room + 1) (h : Stocks s ts others rest) :
    Forgets ((Tree.elementsBackwardOf (ts.map Stocked.tree)).forM (forgetStored room)) s
      others rest := by
  classical
  induction ts generalizing s others rest with
  | nil => exact ⟨s.document, s.stash, rfl, h.document, h.stash⟩
  | cons t ts ih =>
    have hkeys := h.keys
    simp only [List.flatMap_cons, List.count_append] at hkeys
    rw [List.flatMap_cons, List.length_append] at hlength
    have hlater : Stocks s ts (t.roots ++ others) (t.entries ++ rest) := by
      refine ⟨h.document.perm (List.perm_iff_count.2 fun u => ?_),
        h.stash.trans (List.perm_iff_count.2 fun entry => ?_), fun n => ?_⟩
      · simp only [List.flatMap_cons, List.count_append]
        omega
      · simp only [List.flatMap_cons, List.count_append]
        omega
      · have := t.keys_sublist_labels.count_le n
        have := hkeys n
        simp only [List.map_append, List.count_append]
        omega
    obtain ⟨d, stash, hwalk, hd, hs⟩ :=
      ih (fun u hu => hts u (List.mem_cons_of_mem _ hu)) (by omega) hlater
    have hfirst : Stocks { s with document := d, stash := stash } [t] others rest := by
      refine ⟨by simpa using hd, by simpa using hs, fun n => ?_⟩
      have := hkeys n
      simp only [List.flatMap_cons, List.flatMap_nil, List.append_nil]
      omega
    obtain ⟨d', stash', hwalk', hd', hs'⟩ := hts t List.mem_cons_self (by omega) hfirst
    refine ⟨d', stash', ?_, hd', hs'⟩
    rw [List.map_cons, Tree.elementsBackwardOf, Stocked.isElement_tree, Stocked.label_tree]
    exact (run_forM_append_of_ok hwalk).trans hwalk'

/-- There is room enough to forget a tree where there is to forget what is below its elements. -/
lemma forgets_from (hroom : ForgetsBelow room) (t : Stocked NodeId) (hfit : t.Fit)
    (htidy : t.Tidy) : ForgetsFrom room t := by
  classical
  induction t using Stocked.induct with
  | text label content =>
    intro s others rest _ h
    exact ⟨s.document, s.stash, rfl, by simpa [Stocked.roots] using h.document,
      by simpa [Stocked.entries] using h.stash⟩
  | element n head stock children hstock hchildren =>
    intro s others rest hlength h
    obtain ⟨hcount, hfits, hfitc⟩ := Stocked.fit_element.1 hfit
    obtain ⟨htidys, htidyc⟩ := Stocked.tidy_element.1 htidy
    have hkeys := h.keys
    simp only [List.flatMap_cons, List.flatMap_nil, List.append_nil, Stocked.labels_element,
      List.count_append, List.count_cons] at hkeys
    rw [Stocked.entries_element, List.length_append, List.length_append] at hlength
    -- the entry of the element itself makes room for those inside its templates
    have hinside : (stock.flatMap Stocked.entries).length ≤ room := by
      rcases stock with _ | ⟨key, _ | ⟨value, _ | ⟨third, later⟩⟩⟩
      · exact Nat.zero_le _
      · simp only [ownEntries, storedOf, Option.toList_some, List.map_cons,
          List.length_cons] at hlength
        omega
      · simp only [ownEntries, storedOf, Option.toList_some, List.map_cons,
          List.length_cons] at hlength
        omega
      · simp at hcount
    have hown : Forgets (forgetStored room n) s (children.flatMap Stocked.roots ++ others)
        (children.flatMap Stocked.entries ++ rest) := by
      refine forgets_stored hroom
        (fun t ht => ⟨(hfits t ht).1, (htidys t ht).1, (hfits t ht).2, (htidys t ht).2⟩)
        hinside hcount (h.document.perm (by simp)) (h.stash.trans (by simp)) fun m => ?_
      have := hkeys m
      have := Stocked.count_keysOf_le m children
      simp only [List.map_append, List.count_append, List.count_cons, List.count_nil]
      omega
    obtain ⟨d, stash, hwalk, hd, hs⟩ := hown
    have hbelow : Stocks { s with document := d, stash := stash } children others rest := by
      refine ⟨hd, hs, fun m => ?_⟩
      have := hkeys m
      omega
    obtain ⟨d', stash', hwalk', hd', hs'⟩ := forgets_elementsOf
      (fun t ht => hchildren t ht (hfitc t ht) (htidyc t ht)) (by omega) hbelow
    refine ⟨d', stash', ?_, hd', hs'⟩
    have hfrom : elementsFrom (.element n head stock children) =
        n :: Tree.elementsBackwardOf (children.map Stocked.tree) := by
      simp [elementsFrom, Stocked.isElement, Stocked.label, Tree.elementsBackward]
    rw [hfrom]
    exact (run_forM_cons_of_ok hwalk).trans hwalk'

/-- Without entries there is nothing to forget. -/
lemma roots_eq_nil_of_entries {ts : List (Stocked NodeId)} (hts : ∀ t ∈ ts, t.Fit)
    (h : ts.flatMap Stocked.entries = []) : ts.flatMap Stocked.roots = [] :=
  List.flatMap_eq_nil_iff.2 fun t ht =>
    Stocked.roots_eq_nil (hts t ht) (List.flatMap_eq_nil_iff.1 h t ht)

/-- With room for as many templates inside one another as there are entries, all are forgotten. -/
lemma forgetsBelow (room : Nat) : ForgetsBelow room := by
  induction room with
  | zero =>
    intro s C n head ts others rest hts hlength h
    have hnil := List.length_eq_zero_iff.1 (Nat.le_zero.1 hlength)
    have hroots := roots_eq_nil_of_entries (fun t ht => (hts t ht).1) hnil
    exact ⟨s.document, s.stash, rfl, by simpa [hroots] using h.document,
      by simpa [hnil] using h.stash⟩
  | succ room ih =>
    intro s C n head ts others rest hts hlength h
    by_cases hempty : s.stash.isEmpty = true
    · have hstash : ts.flatMap Stocked.entries = [] ∧ rest = [] := by
        have := h.stash
        rw [List.isEmpty_iff.1 hempty] at this
        simpa using this.symm.eq_nil
      have hroots := roots_eq_nil_of_entries (fun t ht => (hts t ht).1) hstash.1
      refine ⟨s.document, s.stash, ?_, by simpa [hroots] using h.document,
        by simpa [hstash.1] using h.stash⟩
      simp only [forgetWithin, run_get, hempty, if_true, run_pure]
    · have hnode : node n s = (.ok (Stocked.element n head [] ts).tree, s) :=
        run_node (h.document.perm List.perm_middle).find?
      obtain ⟨d, stash, hwalk, hd, hs⟩ := forgets_elementsOf
        (fun t ht => forgets_from ih t (hts t ht).1 (hts t ht).2) hlength h
      refine ⟨d, stash, ?_, hd, hs⟩
      simp only [forgetWithin, run_get, hempty, Bool.false_eq_true, if_false]
      refine (run_bind_of_ok hnode).trans ?_
      rw [Stocked.tree_element, Tree.elementsBackward]
      exact hwalk

end Walk

/-- The stock of the children of an element is forgotten. -/
lemma Holds.forgetBelow {s : Walk.State} {here : Place} {φ : Frame} {P : Element NodeId}
    (h : Holds s here φ P) (hts : ∀ t ∈ P.children, t.Fit ∧ t.Tidy) :
    ∃ d stash, Walk.forgetBelow here.node s =
      (.ok (), { s with document := d, stash := stash }) ∧
      Holds { s with document := d, stash := stash } here φ
        { P with children := P.children.map Stocked.copy } := by
  classical
  have hlength : (P.children.flatMap Stocked.entries).length ≤ s.stash.entries.length := by
    rw [h.stash_perm.length_eq]
    simp only [otherEntries, List.length_append]
    omega
  have hstocks : Stocks s P.children
      (φ.context.plug (Stocked.element here.node P.head [] P.children).tree ::
        (P.stock.map Stocked.tree ++ P.stock.flatMap Stocked.roots ++ φ.trees))
      (ownEntries here.node P.stock ++ P.stock.flatMap Stocked.entries ++ φ.entries) := by
    refine ⟨h.document.perm (List.perm_iff_count.2 fun t => ?_),
      h.stash_perm.trans (List.perm_iff_count.2 fun entry => ?_), fun n => ?_⟩
    · simp only [Element.labelled, Stocked.tree_element, Stocked.roots_element, List.count_append,
        List.count_cons]
      omega
    · simp only [otherEntries, List.count_append]
      omega
    · have := h.count_le n
      have := Stocked.count_keysOf_le n P.stock
      have := Stocked.count_ownKeys_le n here.node P.stock
      have := φ.keys_le n
      simp only [Frame.ids, List.map_append, List.count_append] at *
      omega
  obtain ⟨d, stash, hwalk, hd, hs⟩ := Walk.forgetsBelow _ hts hlength hstocks
  refine ⟨d, stash, hwalk, ⟨?_, ?_, h.positions, h.depth⟩⟩
  · simpa [Element.labelled, Function.comp_def] using hd
  · simpa [Element.labelled] using hs

end TreeTemplate
