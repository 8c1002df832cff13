import TreeTemplate.Proofs.Follow.Fill

/-!
# What a list or a map is filled with

A list is filled with one copy of its template for each item, a map with a copy of both its
templates for each entry. Either way the element is filled with one serving after another: some
templates, each with a value for its copy.

Main statements:

* `ContentOperator.run_eq` — a list or a map is filled with its servings, one after another;
* `Holds.servings` — the templates of the servings are in the stock of the element;
* `Reaches.serve` — one serving.
-/

namespace TreeTemplate

namespace Path

/-- The items that an operand names in a scope; under a null scope there are none. -/
def itemsIn (model scope : Value) (operand : String) : Except Cause (List Value) :=
  if scope.isNull then .ok [] else readItems model scope operand

/-- The entries that an operand names in a scope; under a null scope there are none. -/
def entriesIn (model scope : Value) (operand : String) : Except Cause (List (String × Value)) :=
  if scope.isNull then .ok [] else readEntries model scope operand

end Path

namespace ContentOperator

variable {c : Setting} {walk : ElementWalk} {n : NodeId} {scope : Value} {operand : String}
  {operator : ContentOperator} {ordered : Bool}

/-- Whether a list or a map is ordered; the other operators make no copies. -/
def ordered? : ContentOperator → Option Bool
  | list ordered | map ordered => some ordered
  | _ => none

/-- What a list or a map is filled with: for each item or entry the templates to be copied, with
the values for the copies. The element is cleared for them. -/
def servings (c : Setting) (n : NodeId) (scope : Value) (operand : String) :
    ContentOperator → Walk (List (List (NodeId × Value)))
  | list _ => do
    let template ← Walk.itemTemplate n
    Walk.clear n
    let items ← Walk.check (Path.itemsIn c.model scope operand)
    return items.map fun item => [(template, item)]
  | map _ => do
    let (keyTemplate, valueTemplate) ← Walk.entryTemplates n
    Walk.clear n
    let entries ← Walk.check (Path.entriesIn c.model scope operand)
    return entries.map fun entry => [(keyTemplate, .string entry.1), (valueTemplate, entry.2)]
  | _ => return []

end ContentOperator

namespace Walk

/-- Puts copies of templates behind the nodes below an element. -/
def appendCopies (n : NodeId) (serving : List (NodeId × Value)) : Walk (List (NodeId × Value)) :=
  serving.mapM fun copy => do return (← appendCopy n copy.1, copy.2)

/-- Puts the copies for an item or an entry behind the nodes below an element, and walks them. -/
def serve (walk : ElementWalk) (n : NodeId) (serving : List (NodeId × Value)) : Walk Unit := do
  (← appendCopies n serving).forM fun copy => walk copy.1 copy.2 true

/-- Fills an element with one serving after another, each at the position behind the one before. -/
def serveAll (walk : ElementWalk) (n : NodeId) (ordered : Bool)
    (servings : List (List (NodeId × Value))) : Walk Unit :=
  servings.forM fun serving => do
    advance ordered
    serve walk n serving

end Walk

/-! ## The servings make up the walks -/

/-- Walks for what is made of several things are walks for these. -/
lemma Walk.forM_map {α β : Type} (f : β → Walk Unit) (g : α → β) (xs : List α) :
    (xs.map g).forM f = xs.forM fun x => f (g x) :=
  List.forM_map

namespace ContentOperator

variable {c : Setting} {walk : ElementWalk} {n : NodeId} {scope : Value} {operand : String}
  {operator : ContentOperator} {ordered : Bool}

/-- Counting positions for nothing does nothing. -/
lemma counting_pure (ordered : Bool) :
    Walk.counting ordered (pure () : Walk Unit) = pure () := by
  cases ordered <;> rfl

/-- A list is filled by getting what it is filled with, and then filling it in. -/
lemma runList_eq : runList c walk n scope operand ordered = (do
    let servings ← (list ordered).servings c n scope operand
    Walk.counting ordered (Walk.serveAll walk n ordered servings)) := by
  unfold runList servings
  simp only [bind_assoc, pure_bind]
  refine bind_congr (m := Walk) fun template => bind_congr (m := Walk) fun _ => ?_
  unfold Path.itemsIn
  split
  · rw [Walk.check_ok_bind]
    exact (counting_pure ordered).symm
  · refine bind_congr (m := Walk) fun items => congrArg (Walk.counting ordered) ?_
    rw [Walk.serveAll, Walk.forM_map]
    simp [Walk.serve, Walk.appendCopies]

/-- A map is filled by getting what it is filled with, and then filling it in. -/
lemma runMap_eq : runMap c walk n scope operand ordered = (do
    let servings ← (map ordered).servings c n scope operand
    Walk.counting ordered (Walk.serveAll walk n ordered servings)) := by
  unfold runMap servings
  simp only [bind_assoc, pure_bind]
  refine bind_congr (m := Walk) fun templates => bind_congr (m := Walk) fun _ => ?_
  unfold Path.entriesIn
  split
  · rw [Walk.check_ok_bind]
    exact (counting_pure ordered).symm
  · refine bind_congr (m := Walk) fun entries => congrArg (Walk.counting ordered) ?_
    rw [Walk.serveAll, Walk.forM_map]
    simp [Walk.serve, Walk.appendCopies]

/-- A list or a map is filled with its servings, one after another. -/
lemma run_eq (h : operator.ordered? = some ordered) :
    operator.run c walk n scope operand = (do
      let servings ← operator.servings c n scope operand
      Walk.counting ordered (Walk.serveAll walk n ordered servings)
      return none) := by
  cases operator with
  | list _ =>
    cases h
    simp only [run, runList_eq, bind_assoc]
  | map _ =>
    cases h
    simp only [run, runMap_eq, bind_assoc]
  | _ => cases h

end ContentOperator

/-! ## Elements that walks can enter -/

variable {here : Place} {φ : Frame} {s : Walk.State} {P : Element NodeId} {operand : String}
  {c : Setting} {scope : Value}

/-- A tree that a walk can enter: nothing below it is in the way of forgetting, and it is left by no
jump. -/
def Entered (dialect : Dialect) (t : Stocked Unit) : Prop :=
  t.Fit ∧ t.Tidy ∧ t.Unjumped dialect

/-- A walk through elements follows a local action on every element that can be entered. -/
def ElementFollows (dialect : Dialect) (depth : Nat) (walk : ElementWalk)
    (act : List Nat → Value → Bool → Local (Element Unit) Unit) : Prop :=
  ∀ ⦃here : Place⦄ ⦃φ : Frame⦄ ⦃s : Walk.State⦄ ⦃Q : Element NodeId⦄ (scope : Value)
    (isItem : Bool),
    here.depth = depth → Entered dialect Q.bare.whole → Holds s here φ Q →
    Reaches s (Shows here φ) (walk here.node scope isItem s)
      (act here.positions scope isItem Q.bare)

variable {dialect : Dialect} {walk : ElementWalk}
  {act : List Nat → Value → Bool → Local (Element Unit) Unit} {head : Head}
  {stock ts : List (Stocked NodeId)} {ordered : Bool}

/-- An element is still ready when one or two of the elements below it are taken into stock. -/
lemma Element.Ready.stockUp {P : Element Unit} {templates others : List (Stocked Unit)}
    (h : P.Ready)
    (hlength : templates.length ≤ 2)
    (ht : ∀ t ∈ templates, t ∈ P.elements) (ho : ∀ t ∈ others, t ∈ P.children) :
    (P.stockUp templates others).Ready :=
  ⟨Stocked.fit_element.2 ⟨hlength, fun t m => ⟨(List.mem_filter.1 (ht t m)).2,
    (h.fits t (List.mem_filter.1 (ht t m)).1).1⟩, fun t m => (h.fits t (ho t m)).1⟩,
    fun t m => (h.fits t (ho t m)).2⟩

namespace Local

/-- Taking the template of a list leaves an element ready. -/
lemma keeps_itemTemplate : Keeps Element.Ready itemTemplate := by
  intro P hP
  unfold itemTemplate
  split
  · exact hP
  · exact hP
  · split
    · rename_i e
      exact hP.stockUp (by simp) (by simp [e]) fun t ht => List.mem_of_mem_eraseP ht
    · exact hP

/-- Taking the templates of a map leaves an element ready. -/
lemma keeps_entryTemplates : Keeps Element.Ready entryTemplates := by
  intro P hP
  unfold entryTemplates
  split
  · exact hP
  · exact hP
  · split
    · rename_i e
      exact hP.stockUp (by simp) (by simp [e]) fun t ht =>
        List.mem_of_mem_eraseP (List.mem_of_mem_eraseP ht)
    · exact hP
    · exact hP

/-- The template of a list is an element it has or had. -/
lemma itemTemplate_mem {P Q : Element Unit} {t : Stocked Unit} {notes : List Fault}
    (h : itemTemplate P = ⟨.ok t, Q, notes⟩) : t ∈ P.stock ∨ t ∈ P.elements := by
  unfold itemTemplate at h
  split at h
  · rename_i e
    cases h
    exact .inl (e ▸ List.mem_cons_self)
  · cases h
  · split at h
    · rename_i e
      cases h
      exact .inr (e ▸ List.mem_cons_self)
    · cases h

/-- The templates of a map are elements it has or had. -/
lemma entryTemplates_mem {P Q : Element Unit} {t u : Stocked Unit} {notes : List Fault}
    (h : entryTemplates P = ⟨.ok (t, u), Q, notes⟩) :
    (t ∈ P.stock ∨ t ∈ P.elements) ∧ (u ∈ P.stock ∨ u ∈ P.elements) := by
  unfold entryTemplates at h
  split at h
  · cases h
  · rename_i e
    cases h
    exact ⟨.inl (by simp [e]), .inl (by simp [e])⟩
  · split at h
    · rename_i e
      cases h
      exact ⟨.inr (by simp [e]), .inr (by simp [e])⟩
    · cases h
    · cases h

end Local

/-- Every template that an element has or can be given can be entered as a copy. -/
def Element.Supplied (dialect : Dialect) (P : Element Unit) : Prop :=
  ∀ t, t ∈ P.stock ∨ t ∈ P.elements → t.Unjumped dialect

/-- What is in stock of an element that is ready are elements. -/
lemma Element.Ready.isElement {P : Element Unit} {t : Stocked Unit} (h : P.Ready)
    (ht : t ∈ P.stock ∨ t ∈ P.elements) : t.isElement = true :=
  ht.elim (fun m => ((Stocked.fit_element.1 h.1).2.1 t m).1) fun m => (List.mem_filter.1 m).2

/-- A copy of what is in stock or below an element that is supplied can be entered. -/
lemma Element.Supplied.entered {P : Element Unit} {t : Stocked Unit} (h : P.Supplied dialect)
    (ht : t ∈ P.stock ∨ t ∈ P.elements) : Entered dialect t.copy :=
  ⟨Stocked.fit_ofTree _, Stocked.tidy_ofTree _, (h t ht).copy⟩

/-- A copy of a template looks like the template without its stock. -/
lemma Stocked.bare_ofTree_copy {u : Tree NodeId} {template : Stocked NodeId}
    (h : u.bare = template.tree.bare) : (ofTree u).bare = template.bare.copy := by
  rw [bare_ofTree, h, copy, tree_bare]

/-- A copy of an element is one. -/
lemma Stocked.isElement_ofTree_copy {u : Tree NodeId} {template : Stocked NodeId}
    (h : u.bare = template.tree.bare) (helement : template.isElement = true) :
    (ofTree u).isElement = true := by
  rw [← isElement_bare, bare_ofTree_copy h, isElement_copy, isElement_bare]
  exact helement

/-- The walk of a copy follows the local action for it. -/
lemma accompanies_copy {u : Tree NodeId} {template : Stocked NodeId}
    (hwalk : ElementFollows dialect here.depth walk act) (h : u.bare = template.tree.bare)
    (hentered : Entered dialect template.bare.copy) (value : Value) :
    Accompanies here (.ofTree u) (walk u.label value true) (act here.positions value true) := by
  intro m Q hQ ψ s' hholds
  have hlabel : u.label = m := by
    rw [← Stocked.tree_ofTree u, Stocked.label_tree]
    exact congrArg Stocked.label hQ
  rw [← Stocked.bare_ofTree_copy h, hQ, Element.bare_labelled] at hentered
  rw [hlabel]
  exact hwalk value true rfl hentered hholds

namespace Reaches

/-- What becomes of the nodes below an element becomes of the element. -/
lemma onChildren {left : Except Stop Unit × Walk.State}
    {act : Local (List (Stocked Unit)) Unit}
    (h : Reaches s (ShowsBelow here φ head stock) left (act (ts.map Stocked.bare))) :
    Reaches s (Shows here φ) left (Local.onChildren act (Element.bare ⟨head, stock, ts⟩)) := by
  obtain ⟨hresult, hdiagnostics, hreported, us, hus, hholds⟩ := h
  refine ⟨hresult, hdiagnostics, hreported, ⟨head, stock, us⟩, ?_, hholds⟩
  simp only [Element.bare, Local.onChildren, Element.fill, hus]

/-- Copies that were put behind the nodes below an element are walked in order. -/
lemma placed (us : List (Tree NodeId × Stocked NodeId × Value))
    (hwalk : ElementFollows dialect here.depth walk act)
    (hus : ∀ u ∈ us, u.1.bare = u.2.1.tree.bare ∧ u.2.1.isElement = true ∧
      Entered dialect u.2.1.bare.copy)
    (h : Holds s here φ ⟨head, stock, ts ++ us.map fun u => .ofTree u.1⟩) :
    Reaches s (ShowsBelow here φ head stock) (us.forM (fun u => walk u.1.label u.2.2 true) s)
      (Local.place (us.map fun u => (u.2.1.bare, act here.positions u.2.2 true))
        (ts.map Stocked.bare)) := by
  let xs : List (Stocked NodeId × Walk Unit × Local (Element Unit) Unit) :=
    us.map fun u => (.ofTree u.1, walk u.1.label u.2.2 true, act here.positions u.2.2 true)
  have hxs : ∀ x ∈ xs, Accompanies here x.1 x.2.1 x.2.2 := by
    intro x hx
    obtain ⟨u, hu, rfl⟩ := List.mem_map.1 hx
    exact accompanies_copy hwalk (hus u hu).1 (hus u hu).2.2 u.2.2
  have hfilter : xs.filter (fun x => x.1.isElement) = xs := by
    refine List.filter_eq_self.2 fun x hx => ?_
    obtain ⟨u, hu, rfl⟩ := List.mem_map.1 hx
    exact Stocked.isElement_ofTree_copy (hus u hu).1 (hus u hu).2.1
  have hsweep := sweep ts hxs (by simpa [xs, Function.comp_def] using h)
  have hwalks : xs.forM (fun x => x.2.1) = us.forM fun u => walk u.1.label u.2.2 true :=
    List.forM_map
  have hcopies : xs.map (fun x => (x.1.bare, x.2.2)) =
      us.map fun u => (u.2.1.bare.copy, act here.positions u.2.2 true) := by
    rw [List.map_map]
    exact List.map_congr_left fun u hu => by simp [Stocked.bare_ofTree_copy (hus u hu).1]
  rw [hfilter, hwalks, hcopies] at hsweep
  simpa only [Local.place, List.map_map, Function.comp_def] using hsweep

end Reaches

/-! ## Servings as local actions -/

namespace Local

variable {c : Setting} {walk : List Nat → Value → Local (Element Unit) Unit} {positions : List Nat}
  {scope : Value} {operand : String} {operator : ContentOperator} {ordered : Bool}

/-- What a list or a map is filled with. The element is cleared for it. -/
def servings (c : Setting) (scope : Value) (operand : String) :
    ContentOperator → Local (Element Unit) (List (List (Stocked Unit × Value)))
  | .list _ => do
    let template ← itemTemplate
    clear
    let items ← check (Path.itemsIn c.model scope operand)
    return items.map fun item => [(template, item)]
  | .map _ => do
    let (key, value) ← entryTemplates
    clear
    let entries ← check (Path.entriesIn c.model scope operand)
    return entries.map fun entry => [(key, .string entry.1), (value, entry.2)]
  | _ => return []

/-- Filling in nothing does nothing. -/
lemma onChildren_expand_nil : onChildren (expand positions ordered walk 1 []) = pure () := by
  funext P
  obtain ⟨head, stock, children⟩ := P
  rfl

/-- A list or a map is filled with its servings, one after another. -/
lemma run_eq (h : operator.ordered? = some ordered) :
    run c walk positions scope operand operator = (do
      let served ← servings c scope operand operator
      onChildren (expand positions ordered walk 1 served)
      return none) := by
  cases operator with
  | list _ =>
    cases h
    simp only [run, runList, servings, bind_assoc, pure_bind]
    refine bind_congr (m := Local (Element Unit)) fun template =>
      bind_congr (m := Local (Element Unit)) fun _ => ?_
    unfold Path.itemsIn
    split
    · simp only [pure_bind, check_ok_bind, List.map_nil, onChildren_expand_nil]
    · simp only [bind_assoc]
  | map _ =>
    cases h
    simp only [run, runMap, servings, bind_assoc, pure_bind]
    refine bind_congr (m := Local (Element Unit)) fun _ =>
      bind_congr (m := Local (Element Unit)) fun _ => ?_
    unfold Path.entriesIn
    split
    · simp only [pure_bind, check_ok_bind, List.map_nil, onChildren_expand_nil]
    · simp only [bind_assoc]
  | _ => cases h

end Local

/-! ## Servings, followed -/

section Servings

variable {here : Place} {φ : Frame} {s : Walk.State} {P : Element NodeId} {operand : String}
  {c : Setting} {scope : Value} {dialect : Dialect} {walk : ElementWalk}
  {act : List Nat → Value → Bool → Local (Element Unit) Unit} {head : Head}
  {stock ts : List (Stocked NodeId)} {ordered : Bool} {operator : ContentOperator}

/-- The templates of servings, by their identities. -/
def labelServings (served : List (List (Stocked NodeId × Value))) :
    List (List (NodeId × Value)) :=
  served.map (List.map fun copy => (copy.1.label, copy.2))

/-- The templates of servings without their labels. -/
def bareServings (served : List (List (Stocked NodeId × Value))) :
    List (List (Stocked Unit × Value)) :=
  served.map (List.map fun copy => (copy.1.bare, copy.2))

/-- The templates of a serving are in stock, and their copies can be entered. -/
def CanServe (dialect : Dialect) (stock : List (Stocked NodeId))
    (serving : List (Stocked NodeId × Value)) : Prop :=
  ∀ copy ∈ serving, copy.1 ∈ stock ∧ copy.1.isElement = true ∧ Entered dialect copy.1.bare.copy

namespace Holds

/-- Copies of templates are put behind the nodes below an element. -/
lemma appendCopies {serving : List (Stocked NodeId × Value)}
    (hserving : ∀ copy ∈ serving, copy.1 ∈ stock) (h : Holds s here φ ⟨head, stock, ts⟩) :
    ∃ (us : List (Tree NodeId × Stocked NodeId × Value)) (d : Document),
      us.map Prod.snd = serving ∧ (∀ u ∈ us, u.1.bare = u.2.1.tree.bare) ∧
      Walk.appendCopies here.node (serving.map fun copy => (copy.1.label, copy.2)) s =
        (.ok (us.map fun u => (u.1.label, u.2.2)), { s with document := d }) ∧
      Holds { s with document := d } here φ ⟨head, stock, ts ++ us.map fun u => .ofTree u.1⟩ := by
  induction serving generalizing s ts with
  | nil => exact ⟨[], s.document, rfl, by simp, rfl, by simpa using h⟩
  | cons copy serving ih =>
    obtain ⟨template, value⟩ := copy
    obtain ⟨u, d, hcopy, hbare, hholds⟩ := h.appendCopy (hserving _ List.mem_cons_self)
    obtain ⟨us, d', rfl, hbares, hcopies, hholds'⟩ :=
      ih (fun copy hc => hserving copy (List.mem_cons_of_mem _ hc)) hholds
    refine ⟨(u, template, value) :: us, d', rfl, List.forall_mem_cons.2 ⟨hbare, hbares⟩, ?_,
      by simpa using hholds'⟩
    simp only [Walk.appendCopies, List.map_cons, List.mapM_cons, bind_assoc, pure_bind] at hcopies ⊢
    exact (Walk.run_bind_of_ok hcopy).trans ((Walk.run_bind_of_ok hcopies).trans rfl)

end Holds

namespace Reaches

/-- The copies for an item or an entry are put behind the others and walked. -/
lemma serve {serving : List (Stocked NodeId × Value)}
    (hwalk : ElementFollows dialect here.depth walk act) (hserving : CanServe dialect stock serving)
    (h : Holds s here φ ⟨head, stock, ts⟩) :
    Reaches s (ShowsBelow here φ head stock)
      (Walk.serve walk here.node (serving.map fun copy => (copy.1.label, copy.2)) s)
      (Local.place (serving.map fun copy => (copy.1.bare, act here.positions copy.2 true))
        (ts.map Stocked.bare)) := by
  obtain ⟨us, d, rfl, hbare, hcopies, hholds⟩ :=
    h.appendCopies fun copy hc => (hserving copy hc).1
  have hplaced := placed us hwalk (fun u hu =>
    ⟨hbare u hu, (hserving _ (List.mem_map_of_mem hu)).2⟩) hholds
  have hwalks : (us.map fun u => (u.1.label, u.2.2)).forM (fun copy => walk copy.1 copy.2 true) =
      us.forM fun u => walk u.1.label u.2.2 true := Walk.forM_map _ _ _
  rw [Walk.serve, Walk.run_bind_of_ok hcopies, hwalks, List.map_map]
  exact hplaced.congr rfl rfl

/-- One serving after another is put behind the nodes below an element. -/
lemma serveEach {served : List (List (Stocked NodeId × Value))}
    (hwalk : ElementFollows dialect here.depth walk act)
    (hserved : ∀ serving ∈ served, CanServe dialect stock serving) {k : Nat}
    (h : Holds s (here.counted ordered k) φ ⟨head, stock, ts⟩) :
    Reaches s (ShowsCounted here ordered φ head stock)
      (Walk.serveAll walk here.node ordered (labelServings served) s)
      (Local.expand here.positions ordered (fun inside value => act inside value true) (k + 1)
        (bareServings served) (ts.map Stocked.bare)) := by
  have hbody : ∀ serving ∈ served, ∀ ⦃k : Nat⦄ ⦃s : Walk.State⦄ ⦃ts : List (Stocked NodeId)⦄,
      Holds s (here.counted ordered k) φ ⟨head, stock, ts⟩ →
      Reaches s (ShowsBelow (here.counted ordered k) φ head stock)
        (Walk.serve walk here.node (serving.map fun copy => (copy.1.label, copy.2)) s)
        (Local.place ((serving.map fun copy => (copy.1.bare, copy.2)).map fun copy =>
          (copy.1, act (here.counted ordered k).positions copy.2 true)) (ts.map Stocked.bare)) := by
    intro serving hserving k s ts hholds
    have hserve := serve (by rwa [Place.counted_depth]) (hserved serving hserving) hholds
    rw [Place.counted_node] at hserve
    simpa only [List.map_map, Function.comp_def] using hserve
  unfold Walk.serveAll labelServings
  rw [Walk.forM_map]
  exact expand hbody h

/-- An element that was cleared is filled with one serving after another. -/
lemma serveAll {served : List (List (Stocked NodeId × Value))}
    (hwalk : ElementFollows dialect here.depth walk act)
    (hserved : ∀ serving ∈ served, CanServe dialect stock serving)
    (h : Holds s here φ ⟨head, stock, []⟩) :
    Reaches s (Shows here φ)
      (Walk.counting ordered (Walk.serveAll walk here.node ordered (labelServings served)) s)
      (Local.onChildren (Local.expand here.positions ordered
        (fun inside value => act inside value true) 1 (bareServings served))
        (Element.bare ⟨head, stock, []⟩)) :=
  onChildren (counting h fun _ _ _ hholds => serveEach hwalk hserved hholds)

end Reaches

/-! ## What there is to serve -/

/-- What an element is filled with was read, or it was not; either way the element is cleared, and
nothing was recorded. -/
inductive Gathers (dialect : Dialect) (here : Place) (φ : Frame) (s : Walk.State) :
    Except Stop (List (List (NodeId × Value))) × Walk.State →
    Yield (Element Unit) (List (List (Stocked Unit × Value))) → Prop
  | served (served : List (List (Stocked NodeId × Value))) {s' : Walk.State} {head : Head}
    {stock : List (Stocked NodeId)} (hserved : ∀ serving ∈ served, CanServe dialect stock serving)
    (hd : s'.diagnostics = s.diagnostics) (hr : s'.reported = s.reported)
    (h : Holds s' here φ ⟨head, stock, []⟩) :
    Gathers dialect here φ s (.ok (labelServings served), s')
      ⟨.ok (bareServings served), Element.bare ⟨head, stock, []⟩, []⟩
  | lacking (cause : Cause) {s' : Walk.State} {Q : Element NodeId}
    (hd : s'.diagnostics = s.diagnostics) (hr : s'.reported = s.reported) (h : Holds s' here φ Q) :
    Gathers dialect here φ s (.error (.fault ⟨cause, none⟩), s') ⟨.error ⟨cause, none⟩, Q.bare, []⟩

namespace Gathers

variable {left : Except Stop (List (List (NodeId × Value))) × Walk.State}
  {yield : Yield (Element Unit) (List (List (Stocked Unit × Value)))}

/-- What was found for an element that was cleared is served. -/
lemma of_found {γ : Type} {found : Except Cause (List γ)} {Q : Element NodeId} {s' : Walk.State}
    (copies : γ → List (Stocked NodeId × Value))
    (hcopies : ∀ x, CanServe dialect Q.stock (copies x)) (hd : s'.diagnostics = s.diagnostics)
    (hr : s'.reported = s.reported) (h : Holds s' here φ (Q.fill [])) :
    Gathers dialect here φ s
      ((do
        let xs ← Walk.check found
        return xs.map fun x => (copies x).map fun copy => (copy.1.label, copy.2) :
          Walk (List (List (NodeId × Value)))) s')
      ((do
        let xs ← Local.check found
        return xs.map fun x => (copies x).map fun copy => (copy.1.bare, copy.2) :
          Local (Element Unit) (List (List (Stocked Unit × Value)))) (Q.fill []).bare) := by
  have hserved (xs : List γ) : ∀ serving ∈ xs.map copies, CanServe dialect Q.stock serving :=
    List.forall_mem_map.2 fun x _ => hcopies x
  have hgathers (xs : List γ) := served (xs.map copies) (hserved xs) hd hr h
  simp only [labelServings, bareServings, List.map_map, Function.comp_def] at hgathers
  cases found with
  | error cause => exact lacking cause hd hr h
  | ok xs =>
    rw [Walk.check_ok_bind, Local.check_ok_bind]
    exact hgathers xs

end Gathers

/-- The templates of the servings are in the stock of the element, or taken from it. -/
lemma Holds.servings (c : Setting) (scope : Value) (operand : String)
    (hop : operator.ordered? = some ordered) (hP : P.bare.Ready)
    (hsupplied : P.bare.Supplied dialect) (h : Holds s here φ P) :
    Gathers dialect here φ s (operator.servings c here.node scope operand s)
      (Local.servings c scope operand operator P.bare) := by
  cases operator with
  | list _ =>
    unfold ContentOperator.servings Local.servings
    dsimp only
    rcases h.itemTemplate hP.1 with
      ⟨template, Q, d, stash, hrun, hlocal, hholds, hstock⟩ | ⟨cause, hrun, hlocal⟩
    · -- the template is in the stock by now, and stays there when the element is cleared
      have hmem := Local.itemTemplate_mem hlocal
      have hready : Q.bare.Ready := by
        have := Local.keeps_itemTemplate _ hP
        rwa [hlocal] at this
      obtain ⟨d', stash', hclear, hholds'⟩ := hholds.clear hready
      have hlocalClear : Local.clear Q.bare = ⟨.ok (), (Q.fill []).bare, []⟩ := rfl
      have helement := hP.isElement hmem
      rw [Stocked.isElement_bare] at helement
      rw [Walk.run_bind_of_ok hrun, Local.bind_of_ok hlocal, Walk.run_bind_of_ok hclear,
        Local.bind_of_ok hlocalClear]
      exact Gathers.of_found (fun item => [(template, item)]) (fun item copy hcopy => by
        rw [List.mem_singleton.1 hcopy]
        exact ⟨hstock ▸ List.mem_cons_self, helement, hsupplied.entered hmem⟩) rfl rfl hholds'
    · rw [Walk.run_bind_of_error hrun, Local.bind_of_error hlocal]
      exact .lacking cause rfl rfl h
  | map _ =>
    unfold ContentOperator.servings Local.servings
    dsimp only
    rcases h.entryTemplates hP.1 with
      ⟨key, value, Q, d, stash, hrun, hlocal, hholds, hstock⟩ | ⟨cause, hrun, hlocal⟩
    · obtain ⟨hmemk, hmemv⟩ := Local.entryTemplates_mem hlocal
      have hready : Q.bare.Ready := by
        have := Local.keeps_entryTemplates _ hP
        rwa [hlocal] at this
      obtain ⟨d', stash', hclear, hholds'⟩ := hholds.clear hready
      have hlocalClear : Local.clear Q.bare = ⟨.ok (), (Q.fill []).bare, []⟩ := rfl
      have helementk := hP.isElement hmemk
      have helementv := hP.isElement hmemv
      rw [Stocked.isElement_bare] at helementk helementv
      rw [Walk.run_bind_of_ok hrun, Local.bind_of_ok hlocal]
      dsimp only
      rw [Walk.run_bind_of_ok hclear, Local.bind_of_ok hlocalClear]
      refine Gathers.of_found
        (fun entry : String × Value => [(key, .string entry.1), (value, entry.2)])
        (fun entry => List.forall_mem_cons.2 ⟨?_, List.forall_mem_singleton.2 ?_⟩) rfl rfl hholds'
      · exact ⟨by simp [hstock], helementk, hsupplied.entered hmemk⟩
      · exact ⟨by simp [hstock], helementv, hsupplied.entered hmemv⟩
    · rw [Walk.run_bind_of_error hrun, Local.bind_of_error hlocal]
      exact .lacking cause rfl rfl h
  | _ => cases hop

/-- A list or a map is filled with copies of its templates. -/
lemma Reaches.collection (hop : operator.ordered? = some ordered)
    (hwalk : ElementFollows dialect here.depth walk act) (hP : P.bare.Ready)
    (hsupplied : P.bare.Supplied dialect) (h : Holds s here φ P) :
    Reaches s (Shows here φ) (operator.run c walk here.node scope operand s)
      (Local.run c (fun inside value => act inside value true) here.positions scope operand
        operator P.bare) := by
  rw [ContentOperator.run_eq hop, Local.run_eq hop]
  have hgathers := h.servings c scope operand hop hP hsupplied
  generalize hleft : operator.servings c here.node scope operand s = left at hgathers
  generalize hyield : Local.servings c scope operand operator P.bare = yield at hgathers
  cases hgathers with
  | served served hserved hd hr hholds =>
    rw [Walk.run_bind_of_ok hleft, Local.bind_of_ok hyield]
    exact ((serveAll hwalk hserved hholds).bind fun {_} {_} {_} _ _ h => pure h _).congr hd hr
  | lacking cause hd hr hholds =>
    rw [Walk.run_bind_of_error hleft, Local.bind_of_error hyield]
    exact (fail hholds ⟨cause, none⟩).congr hd hr

end Servings

end TreeTemplate
