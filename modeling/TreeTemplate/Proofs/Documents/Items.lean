import TreeTemplate.Proofs.Documents.Calls
import TreeTemplate.Proofs.Follow.Visits
import TreeTemplate.Proofs.Local.Items

/-!
# Items of lists and maps

A list or a map that an injection comes to is filled item by item. What each copy becomes, and what
is recorded for it, is what becomes of one copy that is put alone into the same element: neither the
copies before it nor the elements that they leave in the document change anything for it.

Main statements:

* `Holds.serveAlone` — a copy alone in its element;
* `Holds.collection_ok` — an element filled item by item;
* `Holds.list_append` — the items of two lists;
* `filled_item_by_item` — every list or map that an injection comes to.
-/

namespace TreeTemplate

open Stocked (at? put)

/-- Puts one copy behind the nodes below an element and walks it. -/
def Walk.serveAlone (walk : ElementWalk) (n : NodeId) (copy : NodeId × Value) :
    Walk (Tree NodeId) := do
  let u ← appendCopy n copy.1
  walk u copy.2 true
  node u

namespace Walk.State

/-- A state with other positions, in which nothing was recorded. -/
def unrecorded (s : Walk.State) (positions : List Nat) : Walk.State :=
  { s with positions, diagnostics := [] }

/-- How the nodes below an element look. -/
def below? (s : Walk.State) (n : NodeId) : Option (List (Tree Unit)) :=
  (s.document.find? n).map fun t => t.children.map Tree.bare

end Walk.State

variable {here : Place} {φ : Frame} {s s' : Walk.State} {P : Element NodeId} {c : Setting}
  {scope : Value} {operand : String} {dialect : Dialect} {walk : ElementWalk}
  {act : List Nat → Value → Bool → Local (Element Unit) Unit} {head : Head}
  {stock ts after : List (Stocked NodeId)} {ordered : Bool} {operator : ContentOperator}

namespace Holds

/-- What is below an element that a state holds are the trees of its children. -/
lemma below? (h : Holds s here φ P) :
    s.below? here.node = some (P.bare.children.map Stocked.tree) := by
  simp [Walk.State.below?, h.find?, Element.labelled, Element.bare, Tree.children,
    Function.comp_def,
    Stocked.tree_bare]

/-- What a state holds does not depend on what was recorded. -/
lemma unrecorded (h : Holds s here φ P) (positions : List Nat) :
    Holds (s.unrecorded positions) { here with positions } φ P :=
  ⟨h.document, h.stash, rfl, h.depth⟩

/-- What becomes of a copy alone in its element. -/
lemma serveAlone {template : Stocked NodeId} {value : Value}
    (h : Holds s here φ ⟨head, stock, []⟩) (hwalk : ElementFollows dialect here.depth walk act)
    (hserve : template ∈ stock ∧ template.isElement = true ∧ Entered dialect template.bare.copy)
    {copy : List Nat × Stocked Unit × Value}
    (hcopy : copy = (here.positions, template.bare, value))
    (halone : (Local.alone (fun inside value => act inside value true) copy).result = .ok ()) :
    ∃ one left, Walk.serveAlone walk here.node (template.label, value) s = (.ok one, left) ∧
      one.bare = (Local.alone (fun inside value => act inside value true) copy).state.tree ∧
      left.diagnostics = s.diagnostics ++
        (Local.alone (fun inside value => act inside value true) copy).notes := by
  subst hcopy
  obtain ⟨hmem, helement, hentered⟩ := hserve
  obtain ⟨u, d, hrun, hu, hplaced⟩ := h.appendCopy hmem
  have hplaced : Holds _ here φ ⟨head, stock, [] ++ .ofTree u :: []⟩ := hplaced
  obtain ⟨R, hR, hholds⟩ := Holds.ofCopy hu helement hplaced
  have hreaches := hwalk value true (rfl : (here.child u.label).depth = here.depth)
    (hR ▸ hentered) hholds
  have hyield : Local.alone (fun inside value => act inside value true)
      (here.positions, template.bare, value) =
      Local.onElement (act here.positions value true) R.bare.whole := by
    rw [hR]
    rfl
  rw [hyield] at halone ⊢
  obtain ⟨Q, hQ, hholds'⟩ := hreaches.shows
  have hrest := (Walk.run_bind_of_ok (f := fun _ => Walk.node u.label)
    (hreaches.of_result halone)).trans (Walk.run_node hholds'.find?)
  refine ⟨_, _, (Walk.run_bind_of_ok hrun).trans hrest, ?_, hreaches.diagnostics⟩
  rw [← Stocked.tree_bare, Element.bare_labelled, hQ]
  rfl

/-- What is below an element that was cleared and filled with servings, and what was recorded, is
made up of the copies. -/
lemma serveAll_ok {ordered : Bool} {served : List (List (Stocked NodeId × Value))}
    (hwalk : ElementFollows dialect here.depth walk act)
    (hserved : ∀ serving ∈ served, CanServe dialect stock serving)
    (h : Holds s here φ ⟨head, stock, []⟩)
    (hrun : Walk.counting ordered (Walk.serveAll walk here.node ordered (labelServings served)) s =
      (.ok (), s')) :
    let copies := numbered here.positions ordered 1 (bareServings served)
    let alone := Local.alone fun inside value => act inside value true
    (∀ copy ∈ copies, (alone copy).result = .ok ()) ∧
      s'.below? here.node = some (copies.map fun copy => (alone copy).state.tree) ∧
      s'.diagnostics = s.diagnostics ++ copies.flatMap fun copy => (alone copy).notes := by
  intro copies alone
  have hreaches : Reaches s (Shows here φ) (Walk.counting ordered
      (Walk.serveAll walk here.node ordered (labelServings served)) s) _ :=
    Reaches.serveAll hwalk hserved h
  rw [hrun] at hreaches
  have halone := Local.forall_of_expand (hreaches.of_run rfl).1
  have hexpand := Local.expand_of_ok [] halone
  have hstate : Local.onChildren (Local.expand here.positions ordered
      (fun inside value => act inside value true) 1 (bareServings served))
      (Element.bare ⟨head, stock, []⟩) = ⟨.ok (), (Element.bare ⟨head, stock, []⟩).fill
        (copies.map fun copy => (alone copy).state), copies.flatMap fun copy =>
          (alone copy).notes⟩ := by
    simp only [Local.onChildren, Element.bare, List.map_nil, hexpand, List.nil_append]
    rfl
  rw [hstate] at hreaches
  obtain ⟨Q, hQ, hholds⟩ := hreaches.shows
  refine ⟨halone, ?_, hreaches.diagnostics⟩
  rw [hholds.below?, hQ, Element.fill, List.map_map]
  rfl

/-- An element that a list or a map has filled holds what its copies become alone in it. -/
lemma collection_ok (hop : operator.ordered? = some ordered)
    (hwalk : ElementFollows dialect here.depth walk act) (hP : P.bare.Ready)
    (hsupplied : P.bare.Supplied dialect) (h : Holds s here φ P) {inner : Option Value}
    (hrun : operator.run c walk here.node scope operand s = (.ok inner, s')) :
    ∃ rows cleared, operator.servings c here.node scope operand s = (.ok rows, cleared) ∧
      let served := (numbered here.positions ordered 1 rows).map fun copy =>
        Walk.serveAlone walk here.node copy.2 (cleared.unrecorded copy.1)
      (s'.below? here.node).map (List.map some) =
          some (served.map fun one => one.1.toOption.map Tree.bare) ∧
        s'.diagnostics = s.diagnostics ++ served.flatMap fun one => one.2.diagnostics := by
  rw [ContentOperator.run_eq hop] at hrun
  obtain ⟨rows, cleared, hservings, hrun⟩ := Walk.bind_eq_ok hrun
  obtain ⟨_, s₁, hcounting, hpure⟩ := Walk.bind_eq_ok hrun
  cases hpure
  refine ⟨rows, cleared, hservings, ?_⟩
  have hgathers := h.servings c scope operand hop hP hsupplied
  rw [hservings] at hgathers
  generalize Local.servings c scope operand operator P.bare = yield at hgathers
  cases hgathers with
  | @served served _ head stock hserved hd hr hcleared =>
    obtain ⟨halone, hbelow, hdiagnostics⟩ := serveAll_ok hwalk hserved hcleared hcounting
    -- what a copy becomes does not depend on the ones before it, so that each can be made alone
    have hone : ∀ copy ∈ numbered here.positions ordered 1 served, ∃ one left,
        Walk.serveAlone walk here.node (copy.2.1.label, copy.2.2) (cleared.unrecorded copy.1) =
          (.ok one, left) ∧
        one.bare = (Local.alone (fun inside value => act inside value true)
          (copy.1, copy.2.1.bare, copy.2.2)).state.tree ∧
        left.diagnostics = (Local.alone (fun inside value => act inside value true)
          (copy.1, copy.2.1.bare, copy.2.2)).notes := by
      intro copy hcopy
      obtain ⟨serving, hserving, hmem⟩ := mem_of_mem_numbered hcopy
      refine (hcleared.unrecorded copy.1).serveAlone hwalk (hserved serving hserving _ hmem) rfl
        (halone _ ?_)
      rw [bareServings, numbered_map]
      exact List.mem_map_of_mem hcopy
    rw [bareServings, numbered_map] at hbelow hdiagnostics
    rw [labelServings, numbered_map, hbelow, hdiagnostics, hd]
    simp only [List.map_map, List.flatMap_map, Option.map_some, Function.comp_def]
    refine ⟨congrArg some (List.map_congr_left fun copy hcopy => ?_),
      congrArg _ (List.flatMap_congr fun copy hcopy => ?_)⟩
    · obtain ⟨one, left, hrun, hbare, -⟩ := hone copy hcopy
      rw [hrun, ← hbare]
      rfl
    · obtain ⟨one, left, hrun, -, hnotes⟩ := hone copy hcopy
      rw [hrun, ← hnotes]

end Holds

/-! ## Items in two parts -/

namespace Local

variable {walk : List Nat → Value → Local (Element Unit) Unit} {positions : List Nat}
    {P Q : Element Unit}
  {t : Stocked Unit} {items xs ys : List Value} {scope₁ scope₂ : Value} {operand₁ operand₂ : String}

/-- Taking the template of a list notes nothing. -/
lemma itemTemplate_notes (P : Element Unit) : (itemTemplate P).notes = [] := by
  unfold itemTemplate
  split
  · rfl
  · rfl
  · split <;> rfl

/-- A list that can be read fills the cleared element with a copy for each item. -/
lemma list_eq (hitems : Path.itemsIn c.model scope operand = .ok items)
    (ht : itemTemplate P = ⟨.ok t, Q, []⟩) :
    run c walk positions scope operand (.list false) P =
      (onChildren (expand positions false walk 1 (items.map fun item => [(t, item)])) >>=
        fun _ => return none) (Q.fill []) := by
  have hclear : clear Q = ⟨.ok (), Q.fill [], []⟩ := rfl
  have hservings : servings c scope operand (.list false) P =
      ⟨.ok (items.map fun item => [(t, item)]), Q.fill [], []⟩ := by
    unfold servings
    dsimp only
    rw [bind_of_ok ht, bind_of_ok hclear, hitems, check_ok_bind]
    rfl
  rw [run_eq rfl, bind_of_ok hservings]
  rfl

/-- A list that is not ordered makes of its items what their copies become by themselves. -/
lemma list_of_ok (hitems : Path.itemsIn c.model scope operand = .ok items)
    (ht : itemTemplate P = ⟨.ok t, Q, []⟩)
    (hok : ∀ item ∈ items, (alone walk (positions, t, item)).result = .ok ()) :
    run c walk positions scope operand (.list false) P = ⟨.ok none,
      Q.fill (items.map fun item => (alone walk (positions, t, item)).state),
      items.flatMap fun item => (alone walk (positions, t, item)).notes⟩ := by
  have hcopies := numbered_items positions t items 1
  have hexpand : expand positions false walk 1 (items.map fun item => [(t, item)]) [] = _ :=
    expand_of_ok [] (by simpa [hcopies] using hok)
  simp only [hcopies, List.nil_append, List.map_map, List.flatMap_map] at hexpand
  have hfilled : onChildren (expand positions false walk 1 (items.map fun item => [(t, item)]))
      (Q.fill []) = ⟨.ok (), Q.fill (items.map fun item => (alone walk (positions, t, item)).state),
        items.flatMap fun item => (alone walk (positions, t, item)).notes⟩ := by
    simp only [onChildren, Element.fill, hexpand]
    rfl
  rw [list_eq hitems ht, bind_of_ok hfilled, pure_apply, List.append_nil]

/-- A list that is not ordered runs to the end where the copy for each item does. -/
lemma list_result_iff (hitems : Path.itemsIn c.model scope operand = .ok items)
    (ht : itemTemplate P = ⟨.ok t, Q, []⟩) :
    (run c walk positions scope operand (.list false) P).result = .ok none ↔
      ∀ item ∈ items, (alone walk (positions, t, item)).result = .ok () := by
  refine ⟨fun h => ?_, fun h => by rw [list_of_ok hitems ht h]⟩
  rw [list_eq hitems ht] at h
  obtain ⟨_, hexpand, -, -, -⟩ := bind_eq_ok h
  simpa [numbered_items] using forall_of_expand hexpand

/-- A list that is not ordered and has the items of two lists runs to the end where the two do, and
makes of the items what they do. -/
lemma list_append (walk : List Nat → Value → Local (Element Unit) Unit) (positions : List Nat)
    (P : Element Unit) (hxs : Path.itemsIn c.model scope₁ operand₁ = .ok xs)
    (hys : Path.itemsIn c.model scope₂ operand₂ = .ok ys)
    (hall : Path.itemsIn c.model scope operand = .ok (xs ++ ys)) :
    let first := run c walk positions scope₁ operand₁ (.list false) P
    let second := run c walk positions scope₂ operand₂ (.list false) P
    let both := run c walk positions scope operand (.list false) P
    (both.result = .ok none ↔ first.result = .ok none ∧ second.result = .ok none) ∧
      (both.result = .ok none →
        both.state.children = first.state.children ++ second.state.children ∧
          both.notes = first.notes ++ second.notes) := by
  intro first second both
  have hnotes := itemTemplate_notes P
  rcases ht : itemTemplate P with ⟨f | t, Q, notes⟩
  · -- without a template none of the three runs to the end
    have hfails (scope : Value) (operand : String) :
        (run c walk positions scope operand (.list false) P).result ≠ .ok none := by
      intro h
      rw [run_eq rfl] at h
      obtain ⟨served, hservings, -, -, -⟩ := bind_eq_ok h
      obtain ⟨template, htemplate, -, -, -⟩ := bind_eq_ok hservings
      rw [ht] at htemplate
      cases htemplate
    exact ⟨⟨fun h => absurd h (hfails _ _), fun h => absurd h.1 (hfails _ _)⟩,
      fun h => absurd h (hfails _ _)⟩
  · rw [ht] at hnotes
    obtain rfl : notes = [] := hnotes
    -- all three make their copies of the same template
    have hiff : both.result = .ok none ↔ first.result = .ok none ∧ second.result = .ok none := by
      rw [list_result_iff hall ht, list_result_iff hxs ht, list_result_iff hys ht,
        List.forall_mem_append]
    refine ⟨hiff, fun h => ?_⟩
    obtain ⟨hfirst, hsecond⟩ := hiff.1 h
    rw [list_result_iff hall ht] at h
    rw [list_result_iff hxs ht] at hfirst
    rw [list_result_iff hys ht] at hsecond
    simp only [both, first, second, list_of_ok hall ht h, list_of_ok hxs ht hfirst,
      list_of_ok hys ht hsecond, Element.fill, List.map_append, List.flatMap_append, and_self]

end Local

/-- A walk succeeds where the local action does, with the same answer. -/
lemma Reaches.result_eq_ok_iff {α σ : Type} {shows : σ → Walk.State → Prop}
    {left : Except Stop α × Walk.State} {yield : Yield σ α} {a : α}
    (h : Reaches s shows left yield) : left.1 = .ok a ↔ yield.result = .ok a := by
  rw [h.result]
  cases yield.result <;> simp [Except.mapError]

/-- A list that is not ordered and has the items of two lists, run in the same state. -/
lemma Holds.list_append {scope₁ scope₂ : Value} {operand₁ operand₂ : String} {xs ys : List Value}
    (h : Holds s here φ P) (hwalk : ElementFollows dialect here.depth walk act)
    (hP : P.bare.Ready) (hsupplied : P.bare.Supplied dialect)
    (hxs : Path.itemsIn c.model scope₁ operand₁ = .ok xs)
    (hys : Path.itemsIn c.model scope₂ operand₂ = .ok ys)
    (hall : Path.itemsIn c.model scope operand = .ok (xs ++ ys)) :
    let first := (ContentOperator.list false).run c walk here.node scope₁ operand₁ s
    let second := (ContentOperator.list false).run c walk here.node scope₂ operand₂ s
    let both := (ContentOperator.list false).run c walk here.node scope operand s
    (both.1 = .ok none ↔ first.1 = .ok none ∧ second.1 = .ok none) ∧
      (both.1 = .ok none → ∃ us ws notes₁ notes₂, first.2.below? here.node = some us ∧
        second.2.below? here.node = some ws ∧ both.2.below? here.node = some (us ++ ws) ∧
        first.2.diagnostics = s.diagnostics ++ notes₁ ∧
        second.2.diagnostics = s.diagnostics ++ notes₂ ∧
        both.2.diagnostics = s.diagnostics ++ (notes₁ ++ notes₂)) := by
  intro first second both
  have hreaches (scope : Value) (operand : String) : Reaches s (Shows here φ)
      ((ContentOperator.list false).run c walk here.node scope operand s) _ :=
    Reaches.collection rfl hwalk hP hsupplied h
  obtain ⟨hiff, happend⟩ := Local.list_append (fun inside value => act inside value true)
    here.positions P.bare hxs hys hall
  refine ⟨?_, fun hok => ?_⟩
  · rw [(hreaches scope operand).result_eq_ok_iff, (hreaches scope₁ operand₁).result_eq_ok_iff,
      (hreaches scope₂ operand₂).result_eq_ok_iff]
    exact hiff
  · obtain ⟨hchildren, hnotes⟩ := happend ((hreaches scope operand).result_eq_ok_iff.1 hok)
    obtain ⟨P₁, hP₁, hholds₁⟩ := (hreaches scope₁ operand₁).shows
    obtain ⟨P₂, hP₂, hholds₂⟩ := (hreaches scope₂ operand₂).shows
    obtain ⟨P₀, hP₀, hholds₀⟩ := (hreaches scope operand).shows
    refine ⟨_, _, _, _, hholds₁.below?, hholds₂.below?, ?_, (hreaches scope₁ operand₁).diagnostics,
      (hreaches scope₂ operand₂).diagnostics, ?_⟩
    · rw [hholds₀.below?, hP₀, hP₁, hP₂, hchildren, List.map_append]
    · rw [(hreaches scope operand).diagnostics, hnotes]

/-! ## Every list and map that an injection comes to -/

/-- The element that an injection of a template begins with. -/
def Visit.start (e : Engine) (t : Template) (d : Document) (m : Value) : Visit where
  room := e.maxDepth
  node := t.root
  scope := m
  isItem := false
  state := { document := d, stash := t.stash }

variable {d : Document} {t : Template} {T : Stocked NodeId} {p : List Nat} {x : Element NodeId}
  {e : Engine} {m : Value}

/-- What an injection begins with is found. -/
lemma Template.HoldsStocked.finds_start (h : t.HoldsStocked d T)
    (hx : at? p T = some (x.labelled t.root))
    (hentered : Entered e.dialect x.bare.whole) (hm : m.Ordered) :
    (Visit.start e t d m).Finds ⟨e, m⟩ := by
  obtain ⟨φ, hφ⟩ := exists_frame hx .alone
  have hholds := (hφ { document := d, stash := t.stash } x).2 ((Stocked.put_at? hx).symm ▸ h.2)
  exact ⟨hm, ⟨t.root, [], 0⟩, φ, x, rfl, hholds, hentered⟩

/-- Whatever an injection comes to is found. -/
lemma Visit.Finds.reached {v w : Visit} (hm : c.model.Ordered) (h : v.Finds c)
    (hw : Relation.ReflTransGen (Visit.Leads c) v w) : w.Finds c := by
  induction hw with
  | refl => exact h
  | tail _ hleads ih => exact ih.leads hm hleads

/-- A list or a map that an injection comes to, after any calls of a template for an element of a
document that was read, is filled item by item. Where it succeeds, each of its copies is what one
copy alone in the element becomes, with the position of its item or entry, and what was recorded is
what is recorded for these one after another. The items of two lists that are not ordered, one
behind the other, become what they become in the two. -/
theorem filled_item_by_item {markup : String} (h : Document.parse markup = .ok d)
    (hjump : ∀ t ∈ d.elements, t.head.JumpFree e.dialect)
    (hunmarked : ∀ t ∈ d.elements, t.head.Unmarked e.dialect) {root : Tree NodeId}
    (hroot : root ∈ d.attached) (helement : root.isElement = true) {calls : List Call}
    (hcalls : ∀ call ∈ calls, call.isWhole) (hm : m.Ordered) {v : Visit}
    (hv : Relation.ReflTransGen (Visit.Leads ⟨e, m⟩)
      (.start e ((Template.ofRoot root.label).afterCalls e d calls).1
        ((Template.ofRoot root.label).afterCalls e d calls).2 m) v)
    {room : Nat} (hfills : v.Fills ⟨e, m⟩ room (some (operator, operand)) s)
    (hop : operator.ordered? = some ordered) :
    let walk := Setting.inject ⟨e, m⟩ room
    (∀ inner s', operator.run ⟨e, m⟩ walk v.node v.scope operand s = (.ok inner, s') →
      ∃ rows cleared, operator.servings ⟨e, m⟩ v.node v.scope operand s = (.ok rows, cleared) ∧
        operator.Serves m v.scope operand rows ∧
        let served := (numbered s.positions ordered 1 rows).map fun copy =>
          Walk.serveAlone walk v.node copy.2 (cleared.unrecorded copy.1)
        (s'.below? v.node).map (List.map some) =
            some (served.map fun one => one.1.toOption.map Tree.bare) ∧
          s'.diagnostics = s.diagnostics ++ served.flatMap fun one => one.2.diagnostics) ∧
    (operator = .list false → ∀ scope scope₁ scope₂ operand operand₁ operand₂ xs ys,
      Path.itemsIn m scope₁ operand₁ = .ok xs → Path.itemsIn m scope₂ operand₂ = .ok ys →
      Path.itemsIn m scope operand = .ok (xs ++ ys) →
      let first := operator.run ⟨e, m⟩ walk v.node scope₁ operand₁ s
      let second := operator.run ⟨e, m⟩ walk v.node scope₂ operand₂ s
      let both := operator.run ⟨e, m⟩ walk v.node scope operand s
      (both.1 = .ok none ↔ first.1 = .ok none ∧ second.1 = .ok none) ∧
        (both.1 = .ok none → ∃ us ws notes₁ notes₂, first.2.below? v.node = some us ∧
          second.2.below? v.node = some ws ∧ both.2.below? v.node = some (us ++ ws) ∧
          first.2.diagnostics = s.diagnostics ++ notes₁ ∧
          second.2.diagnostics = s.diagnostics ++ notes₂ ∧
          both.2.diagnostics = s.diagnostics ++ (notes₁ ++ notes₂))) := by
  intro walk
  obtain ⟨trees, hpresents, hall⟩ := Template.Presents.all_of_parse h
    (p := fun head => head.JumpFree e.dialect ∧ head.Unmarked e.dialect)
    ⟨by simp [Head.JumpFree], by simp [Head.Unmarked, Head.setters]⟩
    fun t ht => ⟨hjump t ht, hunmarked t ht⟩
  obtain ⟨T, hstocked, hbare⟩ := Template.HoldsStocked.of_presents hpresents root.label
  obtain ⟨p, x, hx, -⟩ := hstocked.exists_spot hroot helement
  -- the element has nothing in stock, as all the document has not
  have hintact : x.bare.whole.TemplatesIntact e.dialect := by
    have hspot : at? p (Element.ofTrees trees).whole = some x.bare.whole := by
      rw [← hbare, Stocked.at?_bare, hx, Option.map_some, Element.bare_labelled]
    have hall := Stocked.All.at? hall hspot
    rw [Element.whole_ofTrees] at hspot
    obtain ⟨u, hu⟩ := Stocked.exists_ofTree_of_at? hspot
    rw [hu] at hall ⊢
    exact Stocked.templatesIntact_ofTree hall
  -- the calls leave a document that is in order, as the one that was read is
  obtain ⟨hsame, T', y, hleft, hy, hkempty⟩ := hstocked.afterCalls
    (R := fun P => P.whole.TemplatesIntact e.dialect) hx hintact (fun P hP => hP)
    (fun m P hP => Local.keeps_templatesIntact_inject (c := ⟨e, m⟩) e.maxDepth 0 [] m false P hP)
    (fun P hP => Local.keeps_templatesIntact_reset e.maxDepth 0 P hP) hcalls
  have hfinds := (hleft.finds_start (hsame.symm ▸ hy) hkempty.entered hm).reached hm hv
  obtain ⟨hscope, here, φ, P, hnode, hholds, hready, hstocked⟩ := hfinds.fills hfills
  have hsupplied := hstocked fun operand e => by
    cases e
    cases hop
  have hwalk := inject_follows ⟨e, m⟩ room here.depth
  rw [← hnode, hholds.positions]
  refine ⟨fun inner s' hrun => ?_, fun hlist => ?_⟩
  · obtain ⟨rows, cleared, hservings, hserved⟩ :=
      hholds.collection_ok hop hwalk hready hsupplied hrun
    exact ⟨rows, cleared, hservings,
      ContentOperator.serves_of_servings hm hscope hop hservings, hserved⟩
  · subst hlist
    intro scope scope₁ scope₂ operand operand₁ operand₂ xs ys hxs hys hall
    exact hholds.list_append hwalk hready hsupplied hxs hys hall

/-- What has an answer has succeeded. -/
lemma eq_ok_of_toOption {ε α σ : Type} {x : Except ε α × σ} {a : α}
    (h : x.1.toOption = some a) : x = (.ok a, x.2) := by
  obtain ⟨_ | b, s⟩ := x
  · cases h
  · cases h
    rfl

/-- An ordered list of two items, each with its number. -/
theorem filled_item_by_item_numbered : ∃ d v s s' inner rows cleared,
    Document.parse
      "<ul data-olist=\"xs\"><li><b data-numbering=\"%n.\"></b><i data-text=\".\"></i></li></ul>" =
      .ok d ∧
    let m : Value := .map [("xs", .list [.string "x", .string "y"])]
    let walk := Setting.inject ⟨{}, m⟩ 254
    Relation.ReflTransGen (Visit.Leads ⟨{}, m⟩)
      (.start {} (Template.ofRoot Document.root) d m) v ∧
    v.Fills ⟨{}, m⟩ 254 (some (.list true, "xs")) s ∧
    (ContentOperator.list true).run ⟨{}, m⟩ walk v.node v.scope "xs" s = (.ok inner, s') ∧
    (s'.below? v.node).map (List.map Tree.markup) =
      some ["<li><b data-numbering=\"%n.\">1.</b><i data-text=\".\">x</i></li>",
        "<li><b data-numbering=\"%n.\">2.</b><i data-text=\".\">y</i></li>"] ∧
    (ContentOperator.list true).servings ⟨{}, m⟩ v.node v.scope "xs" s = (.ok rows, cleared) ∧
    (s'.below? v.node).map (List.map some) =
      some (((numbered s.positions true 1 rows).map fun copy =>
        Walk.serveAlone walk v.node copy.2 (cleared.unrecorded copy.1)).map
          fun one => one.1.toOption.map Tree.bare) := by
  let m : Value := .map [("xs", .list [.string "x", .string "y"])]
  let c : Setting := ⟨{}, m⟩
  let first (d : Document) :=
    c.arrive Document.root m false { document := d, stash := {}, depth := 1 }
  let second (d : Document) :=
    c.arrive ⟨1⟩ m false { (first d).2 with depth := (first d).2.depth + 1 }
  let third (d : Document) :=
    (ContentOperator.list true).run c (c.inject 254) ⟨1⟩ m "xs" (second d).2
  obtain ⟨d, hparse, helements, ⟨r, hr, helement, hroot⟩, hfirst, hchild, hsecond, hthird,
      hmarkup⟩ := exists_ok_of_check
    (Document.parse
      "<ul data-olist=\"xs\"><li><b data-numbering=\"%n.\"></b><i data-text=\".\"></i></li></ul>")
    (p := fun d =>
      (∀ t ∈ d.elements, t.head.JumpFree Dialect.standard ∧ t.head.Unmarked Dialect.standard) ∧
      (∃ r ∈ d.attached, r.isElement = true ∧ r.label = Document.root) ∧
      (first d).1.toOption = some (.fill none) ∧
      ((first d).2.document.find? Document.root).map (fun t => t.elements.map Tree.label) =
        some [⟨1⟩] ∧
      (second d).1.toOption = some (.fill (some (.list true, "xs"))) ∧
      (third d).1.toOption.isSome = true ∧
      ((third d).2.below? ⟨1⟩).map (List.map Tree.markup) =
        some ["<li><b data-numbering=\"%n.\">1.</b><i data-text=\".\">x</i></li>",
          "<li><b data-numbering=\"%n.\">2.</b><i data-text=\".\">y</i></li>"])
    (by decide +kernel)
  obtain ⟨t, ht, hlabels⟩ := Option.map_eq_some_iff.1 hchild
  obtain ⟨child, hone, hlabel⟩ := List.map_eq_singleton_iff.1 hlabels
  have hleads : Visit.Leads c (.start {} (Template.ofRoot Document.root) d m)
      ⟨255, child.label, m, false, (first d).2⟩ :=
    .below ⟨rfl, eq_ok_of_toOption hfirst⟩ rfl ht (hone.trans (List.nil_append _).symm) rfl
  rw [hlabel] at hleads
  have hfills : Visit.Fills c ⟨255, ⟨1⟩, m, false, (first d).2⟩ 254 (some (.list true, "xs"))
      (second d).2 := ⟨rfl, eq_ok_of_toOption hsecond⟩
  have hm : m.Ordered := by
    refine .map (by simp [Ascending]) (List.forall_mem_singleton.2 (.list ?_))
    exact List.forall_mem_cons.2 ⟨.string _, List.forall_mem_singleton.2 (.string _)⟩
  obtain ⟨inner, hthird⟩ := Option.isSome_iff_exists.1 hthird
  have hcalls : ∀ call ∈ ([] : List Call), call.isWhole := fun call hc => by cases hc
  obtain ⟨rows, cleared, hservings, -, hserved, -⟩ := (filled_item_by_item (e := {}) hparse
    (fun t ht => (helements t ht).1) (fun t ht => (helements t ht).2) hr
    helement hcalls hm (hroot.symm ▸ .single hleads) hfills rfl).1 inner _
      (eq_ok_of_toOption hthird)
  exact ⟨d, _, _, _, inner, rows, cleared, hparse, .single hleads, hfills, eq_ok_of_toOption hthird,
    hmarkup, hservings, hserved⟩

end TreeTemplate
