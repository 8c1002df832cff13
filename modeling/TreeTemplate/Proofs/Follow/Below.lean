import TreeTemplate.Proofs.Follow.Content

/-!
# Walking below an element, followed

A walk through the nodes below an element goes from one node to the next. Each of them is an element
of its own, whose frame has the element and the other nodes, so that walking it leaves these as they
are.

Main statements:

* `Reaches.sweep` — nodes side by side;
* `Holds.appendCopy` — a copy of a template behind the nodes below an element.
-/

namespace TreeTemplate

variable {here : Place} {φ : Frame} {s : Walk.State} {head : Head}
  {stock ts : List (Stocked NodeId)}

/-- A state holds an element whose children look as given without their labels. -/
def ShowsBelow (here : Place) (φ : Frame) (head : Head) (stock : List (Stocked NodeId))
    (us : List (Stocked Unit)) (s : Walk.State) : Prop :=
  ∃ ts : List (Stocked NodeId), ts.map Stocked.bare = us ∧ Holds s here φ ⟨head, stock, ts⟩

/-- A place inside an element, at the same positions. -/
def Place.child (here : Place) (m : NodeId) : Place :=
  { here with node := m }

/-- A walk for a node of a tree follows a local action wherever the node is. -/
def Accompanies (here : Place) (t : Stocked NodeId) (walk : Walk Unit)
    (act : Local (Element Unit) Unit) : Prop :=
  ∀ ⦃m : NodeId⦄ ⦃Q : Element NodeId⦄, t = Q.labelled m → ∀ ⦃ψ : Frame⦄ ⦃s : Walk.State⦄,
    Holds s (here.child m) ψ Q → Reaches s (Shows (here.child m) ψ) (walk s) (act Q.bare)

/-- An action on an element with a label is the action on the element by itself. -/
lemma onElement_labelled (act : Local (Element Unit) Unit) (Q : Element NodeId) (m : NodeId) :
    Local.onElement act (Q.labelled m).bare =
      ⟨(act Q.bare).result, (act Q.bare).state.whole, (act Q.bare).notes⟩ := by
  rw [Element.bare_labelled]
  rfl

namespace Reaches

/-- Nodes side by side are walked one after another; texts are left alone. -/
lemma sweep {xs : List (Stocked NodeId × Walk Unit × Local (Element Unit) Unit)}
    (before : List (Stocked NodeId)) (hxs : ∀ x ∈ xs, Accompanies here x.1 x.2.1 x.2.2)
    (h : Holds s here φ ⟨head, stock, before ++ xs.map Prod.fst⟩) :
    Reaches s (ShowsBelow here φ head stock)
      ((xs.filter fun x => x.1.isElement).forM (fun x => x.2.1) s)
      ⟨(Local.sweep (xs.map fun x => (x.1.bare, x.2.2))).result,
        before.map Stocked.bare ++ (Local.sweep (xs.map fun x => (x.1.bare, x.2.2))).state,
        (Local.sweep (xs.map fun x => (x.1.bare, x.2.2))).notes⟩ := by
  induction xs generalizing before s with
  | nil =>
    have hbefore : Holds s here φ ⟨head, stock, before⟩ := by simpa using h
    exact ⟨rfl, (List.append_nil _).symm, (List.append_nil _).symm, before,
      (List.append_nil _).symm, hbefore⟩
  | cons x xs ih =>
    obtain ⟨t, w, l⟩ := x
    have hlater := fun y hy => hxs y (List.mem_cons_of_mem _ hy)
    simp only [List.map_cons] at h ⊢
    cases t with
    | text n content =>
      have hwalk := ih (before ++ [.text n content]) hlater (by simpa using h)
      have htext : Local.onElement l (Stocked.text n content).bare =
          ⟨.ok (), (Stocked.text n content).bare, []⟩ := rfl
      rw [Local.sweep_cons_of_ok htext]
      simpa [Stocked.isElement] using hwalk
    | element m head' stock' children' =>
      set Q : Element NodeId := ⟨head', stock', children'⟩ with hQ
      have hlabelled : Stocked.element m head' stock' children' = Q.labelled m := rfl
      rw [hlabelled] at h ⊢
      have hwalk := hxs _ List.mem_cons_self hlabelled (Holds.inside_iff.2 h)
      have hfilter : ((Q.labelled m, w, l) :: xs).filter (fun x => x.1.isElement) =
          (Q.labelled m, w, l) :: xs.filter fun x => x.1.isElement := rfl
      rw [hfilter]
      have hbare := onElement_labelled l Q m
      dsimp only at hwalk
      rcases e : l Q.bare with ⟨f | _, R, notes⟩
      · rw [e] at hwalk hbare
        rw [Local.sweep_cons_of_error hbare, Walk.run_forM_cons_of_error hwalk.of_error]
        obtain ⟨R', hR, hholds⟩ := hwalk.shows
        refine ⟨rfl, hwalk.diagnostics, hwalk.reported, _, ?_, Holds.inside_iff.1 hholds⟩
        simp [hR, Function.comp_def]
      · rw [e] at hwalk hbare
        rw [Local.sweep_cons_of_ok hbare, Walk.run_forM_cons_of_ok hwalk.of_ok]
        obtain ⟨R', hR, hholds⟩ := hwalk.shows
        have hrest := ih (before ++ [R'.labelled m]) hlater
          (by simpa using Holds.inside_iff.1 hholds)
        have := hwalk.trans hrest
        simpa [hR] using this

end Reaches

/-! ## Copies of templates -/

namespace Holds

/-- A tree of the document is put behind the nodes below an element. -/
lemma append {P : Element NodeId} {u : Tree NodeId} {d : Document} (h : Holds s here φ P)
    (hd : d.Has (u :: φ.context.plug (P.labelled here.node).tree ::
      ((P.labelled here.node).roots ++ φ.trees))) :
    ∃ d', d.append? here.node u.label = some d' ∧
      Holds { s with document := d' } here φ (P.append [.ofTree u]) := by
  rw [Element.labelled, Stocked.tree_element] at hd
  obtain ⟨d', e, hd'⟩ := hd.append?
  refine ⟨d', e, ?_, ?_, h.positions, h.depth⟩
  · simpa [Element.labelled, Element.append, Element.fill] using hd'
  · simpa [Element.labelled, Element.append, Element.fill] using h.stash

/-- A copy of a template is put behind the nodes below an element. -/
lemma appendCopy {template : Stocked NodeId} (h : Holds s here φ ⟨head, stock, ts⟩)
    (ht : template ∈ stock) :
    ∃ (u : Tree NodeId) (d : Document), Walk.appendCopy here.node template.label s =
        (.ok u.label, { s with document := d }) ∧
      u.bare = template.tree.bare ∧
      Holds { s with document := d } here φ ⟨head, stock, ts ++ [.ofTree u]⟩ := by
  classical
  obtain ⟨first, later, hstock⟩ := List.append_of_mem ht
  have hfront : s.document.Has (Tree.Context.top.plug template.tree ::
      (φ.context.plug (Element.labelled ⟨head, stock, ts⟩ here.node).tree ::
        ((first ++ later).map Stocked.tree ++ stock.flatMap Stocked.roots ++
          ts.flatMap Stocked.roots ++ φ.trees))) := by
    refine h.document.perm (List.perm_iff_count.2 fun t => ?_)
    simp only [Element.labelled, Stocked.roots_element, hstock, Tree.Context.plug, List.map_append,
      List.map_cons, List.flatMap_append, List.count_append, List.count_cons]
    omega
  obtain ⟨u, d, e, hbare, hd⟩ := hfront.clone?
  rw [Stocked.label_tree] at e
  have hback : d.Has (u :: φ.context.plug (Element.labelled ⟨head, stock, ts⟩ here.node).tree ::
      ((Element.labelled ⟨head, stock, ts⟩ here.node).roots ++ φ.trees)) := by
    refine hd.perm (List.perm_iff_count.2 fun t => ?_)
    simp only [Element.labelled, Stocked.roots_element, hstock, Tree.Context.plug, List.map_append,
      List.map_cons, List.flatMap_append, List.count_append, List.count_cons]
    omega
  obtain ⟨d', e', hholds⟩ := (h.congr rfl rfl rfl rfl).append (P := ⟨head, stock, ts⟩) hback
  refine ⟨u, d', ?_, hbare, hholds⟩
  have hedit : Walk.edit here.node (fun n d => d.append? n u.label)
      { s with document := d } = (.ok (), { s with document := d' }) := Walk.run_edit e'
  simp only [Walk.appendCopy, Walk.run_get, e]
  exact (Walk.run_bind_of_ok (Walk.run_modify _ _)).trans
    ((Walk.run_bind_of_ok hedit).trans rfl)

end Holds

/-! ## One item after another -/

/-- A place at a position of an ordered list or map, and the same place for one that is not
ordered. -/
def Place.counted (here : Place) (ordered : Bool) (k : Nat) : Place :=
  if ordered then { here with positions := k :: here.positions } else here

/-- Counting positions stays at the element. -/
@[simp]
lemma Place.counted_node (here : Place) (ordered : Bool) (k : Nat) :
    (here.counted ordered k).node = here.node := by
  cases ordered <;> rfl

/-- Counting positions stays at the depth. -/
@[simp]
lemma Place.counted_depth (here : Place) (ordered : Bool) (k : Nat) :
    (here.counted ordered k).depth = here.depth := by
  cases ordered <;> rfl

/-- A state holds an element whose children look as given, at some position. -/
def ShowsCounted (here : Place) (ordered : Bool) (φ : Frame) (head : Head)
    (stock : List (Stocked NodeId)) (us : List (Stocked Unit)) (s : Walk.State) : Prop :=
  ∃ k, ShowsBelow (here.counted ordered k) φ head stock us s

/-- Counting one position more succeeds, and the state holds the element at that position. -/
lemma Holds.advance {ordered : Bool} {k : Nat} {P : Element NodeId}
    (h : Holds s (here.counted ordered k) φ P) : ∃ s', Walk.advance ordered s = (.ok (), s') ∧
      s'.diagnostics = s.diagnostics ∧ s'.reported = s.reported ∧
      Holds s' (here.counted ordered (k + 1)) φ P := by
  cases ordered with
  | false => exact ⟨s, rfl, rfl, rfl, h⟩
  | true =>
    refine ⟨_, Walk.run_modify _ _, rfl, rfl, h.document, h.stash, ?_, h.depth⟩
    have hpositions : s.positions = k :: here.positions := h.positions
    simp [hpositions, Place.counted]

namespace Reaches

variable {γ : Type} {ordered : Bool} {body : γ → Walk Unit}
  {copies : γ → List (Stocked Unit × Value)} {walk : List Nat → Value → Local (Element Unit) Unit}

/-- Items are gone through one after another, each at the position after the one before. -/
lemma expand {xs : List γ} (hbody : ∀ x ∈ xs, ∀ ⦃k : Nat⦄ ⦃s : Walk.State⦄
      ⦃ts : List (Stocked NodeId)⦄, Holds s (here.counted ordered k) φ ⟨head, stock, ts⟩ →
      Reaches s (ShowsBelow (here.counted ordered k) φ head stock) (body x s)
        (Local.place ((copies x).map fun copy =>
          (copy.1, walk (here.counted ordered k).positions copy.2)) (ts.map Stocked.bare)))
    {k : Nat} (h : Holds s (here.counted ordered k) φ ⟨head, stock, ts⟩) :
    Reaches s (ShowsCounted here ordered φ head stock)
      (xs.forM (fun x => Walk.advance ordered >>= fun _ => body x) s)
      (Local.expand here.positions ordered walk (k + 1) (xs.map copies)
        (ts.map Stocked.bare)) := by
  induction xs generalizing k s ts with
  | nil => exact ⟨rfl, (List.append_nil _).symm, (List.append_nil _).symm, k, ts, rfl, h⟩
  | cons x xs ih =>
    obtain ⟨s', hadvance, hdiagnostics, hreported, hholds⟩ := h.advance
    have hplace := hbody x List.mem_cons_self hholds
    have hpositions : (here.counted ordered (k + 1)).positions =
        (if ordered then (k + 1) :: here.positions else here.positions) := by
      cases ordered <;> rfl
    have hfirst : Reaches s (ShowsBelow (here.counted ordered (k + 1)) φ head stock)
        ((Walk.advance ordered >>= fun _ => body x) s)
        (Local.place ((copies x).map fun copy =>
          (copy.1, walk (here.counted ordered (k + 1)).positions copy.2))
          (ts.map Stocked.bare)) := by
      rw [Walk.run_bind_of_ok hadvance]
      exact hplace.congr hdiagnostics hreported
    rw [List.map_cons, Local.expand, ← hpositions]
    refine hfirst.andThen (fun s' hs' => ⟨k + 1, hs'⟩) fun {_} {s'} _ hshows => ?_
    obtain ⟨ts', hts', hholds'⟩ := hshows
    rw [← hts']
    exact ih (fun y hy => hbody y (List.mem_cons_of_mem _ hy)) hholds'

/-- A walk inside one more ordered list or map leaves the positions around it as they were. -/
lemma counting {act : Walk Unit} {yield : Yield (List (Stocked Unit)) Unit}
    (h : Holds s here φ ⟨head, stock, ts⟩)
    (hact : ∀ ⦃s' : Walk.State⦄, s'.diagnostics = s.diagnostics → s'.reported = s.reported →
      Holds s' (here.counted ordered 0) φ ⟨head, stock, ts⟩ →
      Reaches s' (ShowsCounted here ordered φ head stock) (act s') yield) :
    Reaches s (ShowsBelow here φ head stock) (Walk.counting ordered act s) yield := by
  cases ordered with
  | false =>
    obtain ⟨hresult, hdiagnostics, hreported, k, hshows⟩ := hact rfl rfl h
    exact ⟨hresult, hdiagnostics, hreported, hshows⟩
  | true =>
    have hinside : Holds { s with positions := 0 :: s.positions } (here.counted true 0) φ
        ⟨head, stock, ts⟩ :=
      ⟨h.document, h.stash, by simp [Place.counted, h.positions], h.depth⟩
    have hreaches : Reaches { s with positions := 0 :: s.positions }
        (ShowsCounted here true φ head stock) (act { s with positions := 0 :: s.positions })
        yield := hact rfl rfl hinside
    obtain ⟨hresult, hdiagnostics, hreported, k, us, hus, hholds⟩ := hreaches
    refine ⟨hresult, hdiagnostics, hreported, us, hus, hholds.document, hholds.stash, ?_,
      hholds.depth⟩
    exact congrArg List.tail hholds.positions

end Reaches

end TreeTemplate
