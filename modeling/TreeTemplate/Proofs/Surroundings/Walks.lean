import TreeTemplate.Proofs.Courses.Walks
import TreeTemplate.Proofs.Surroundings.Operators
import TreeTemplate.Proofs.Local.Directives

/-!
# Walks and surroundings

A walk that begins at an element without jumps leaves the surroundings of the element, whatever it
fills in and wherever it stops. It goes on with children of the element, each of which stands in
surroundings of its own with everything else as context, and with copies of templates, which are
children by then.

Main statements:

* `leads_child` — one child after another;
* `leads_execute` — the operator that fills an element;
* `confined_inject`, `confined_injectSubtree`, `confined_reset` — whole walks.
-/

namespace TreeTemplate

namespace Walk

variable {s : State} {φ : Surroundings} {stored : Stored} {dialect : Dialect}
    {walk : NodeId → Walk Unit}

/-- In the surroundings stands an element, and no jump leaves it or anything below it. -/
def Open (φ : Surroundings) (s : State) : Prop :=
  ∃ t, StandsIn φ s t ∧ t.JumpFree φ.dialect

/-- An element that no jump leaves stands in its surroundings. -/
lemma Open.plain (h : Open φ s) : Plain φ s :=
  let ⟨t, ht, hjump⟩ := h
  ⟨t, ht, (Tree.jumpFree_iff.1 hjump).2⟩

/-- Whether an element stands in its surroundings depends on the document and the stash alone. -/
lemma ofForest_stands {q : Tree NodeId → Prop} : OfForest (Stands φ q) :=
  fun _ _ hd hs ⟨t, h, hq⟩ => ⟨t, h.congr hd hs, hq⟩

/-- Whether no jump leaves what stands in the surroundings depends on the document and the stash
alone. -/
lemma ofForest_open : OfForest (Open φ) :=
  fun _ _ hd hs ⟨t, h, hjump⟩ => ⟨t, h.congr hd hs, hjump⟩

/-- A walk of elements leaves the surroundings of the element where it begins as they are, if no
jump leaves anything there. -/
def Confined (dialect : Dialect) (walk : NodeId → Walk Unit) : Prop :=
  ∀ φ : Surroundings, φ.dialect = dialect →
    Leads (Open φ) (walk φ.node) (fun _ => Intact φ) fun _ => Intact φ

/-! ## Children -/

/-- Some children of the element in its surroundings are still to be walked. -/
def Ready (φ : Surroundings) (todo : List NodeId) (s : State) : Prop :=
  todo.Nodup ∧ ∃ t, StandsIn φ s t ∧
    ∀ m ∈ todo, ∃ u ∈ t.children, u.label = m ∧ u.isElement = true ∧ u.JumpFree φ.dialect

/-- Where children are still to be walked the surroundings are intact. -/
lemma Ready.intact {todo : List NodeId} (h : Ready φ todo s) : Intact φ s :=
  let ⟨_, t, ht, _⟩ := h
  ⟨t, ht, fun _ _ => trivial⟩

/-- Where the surroundings are intact no child has to be walked. -/
lemma Intact.ready (h : Intact φ s) : Ready φ [] s :=
  let ⟨t, ht, _⟩ := h
  ⟨List.nodup_nil, t, ht, fun _ hm => nomatch hm⟩

/-- The next child that is to be walked stands in surroundings of its own. -/
lemma Ready.exists_open {m : NodeId} {todo : List NodeId} (h : Ready φ (m :: todo) s) :
    ∃ ψ : Surroundings, ψ.dialect = φ.dialect ∧ ψ.node = m ∧ Open ψ s := by
  obtain ⟨-, t, ht, htodo⟩ := h
  obtain ⟨u, hu, rfl, helement, hjump⟩ := htodo m List.mem_cons_self
  obtain ⟨tag, attrs, hidden, children, rfl⟩ := ht.exists_element
  obtain ⟨before, after, rfl⟩ := List.append_of_mem hu
  exact ⟨φ.child tag attrs hidden before after u.label, rfl, rfl, u, ht.enter helement, hjump⟩

/-- One child is walked, and the others are as they were. -/
lemma leads_child (hwalk : Confined φ.dialect walk) (m : NodeId) (todo : List NodeId) :
    Leads (Ready φ (m :: todo)) (walk m) (fun _ => Ready φ todo) fun _ => Intact φ := by
  rintro s ⟨hnodup, t, h, htodo⟩
  obtain ⟨u, hu, rfl, helement, hjump⟩ := htodo m List.mem_cons_self
  obtain ⟨tag, attrs, hidden, children, rfl⟩ := h.exists_element
  obtain ⟨before, after, rfl⟩ := List.append_of_mem hu
  have hchild := hwalk (φ.child tag attrs hidden before after u.label) rfl
  have hopen : Open (φ.child tag attrs hidden before after u.label) s :=
    ⟨u, h.enter helement, hjump⟩
  rcases e : walk u.label s with ⟨stop | _, s'⟩
  · obtain ⟨u', hu', -⟩ := hchild.of_error hopen e
    exact ⟨_, hu'.leave, fun _ _ => trivial⟩
  · obtain ⟨u', hu', -⟩ := hchild.of_ok hopen e
    refine ⟨(List.nodup_cons.1 hnodup).2, _, hu'.leave, fun m hm => ?_⟩
    obtain ⟨v, hv, rfl, hkept⟩ := htodo m (List.mem_cons_of_mem _ hm)
    refine ⟨v, ?_, rfl, hkept⟩
    rcases List.mem_append.1 hv with hv | hv
    · exact List.mem_append_left _ hv
    rcases List.mem_cons.1 hv with rfl | hv
    · exact absurd hm (List.nodup_cons.1 hnodup).1
    · exact List.mem_append_right _ (List.mem_cons_of_mem _ hv)

/-- The children of an element have different identities. -/
lemma StandsIn.nodup_children {t : Tree NodeId} (h : StandsIn φ s t) :
    (t.children.map Tree.label).Nodup := by
  have hnodup := (List.nodup_append.1 h.nodup).1
  obtain ⟨tag, attrs, hidden, children, rfl⟩ := h.exists_element
  rw [Tree.released_element, List.nodup_append] at hnodup
  exact hnodup.1.sublist (Tree.map_label_sublist children)

/-- The children of an element below which there are no jumps can be walked. -/
lemma Plain.exists_ready (h : Plain φ s) : ∃ t, s.document.find? φ.node = some t ∧
    Ready φ (t.elements.map Tree.label) s := by
  obtain ⟨t, ht, hjump⟩ := h
  refine ⟨t, ht.find?, ht.nodup_children.sublist (List.filter_sublist.map _), t, ht, fun m hm => ?_⟩
  obtain ⟨u, hu, rfl⟩ := List.mem_map.1 hm
  obtain ⟨hu, helement⟩ := List.mem_filter.1 hu
  exact ⟨u, hu, rfl, helement, hjump u hu⟩

/-- All elements below an element are walked. -/
lemma leads_below (hwalk : Confined φ.dialect walk) :
    Leads (Plain φ) (below walk φ.node) (fun _ => Intact φ) fun _ => Intact φ := by
  intro s hs
  obtain ⟨t, ht, hready⟩ := hs.exists_ready
  have hwalks := Leads.forM (Ready φ) (t.elements.map Tree.label) (leads_child hwalk)
  rw [forM_map] at hwalks
  simp only [below, run_bind_of_ok (run_node ht)]
  exact (hwalks.mono (fun _ h => h) (fun _ _ h => h.intact) fun _ _ h => h) s hready

/-! ## Copies -/

/-- A copy of a template that is held is one more child that can be walked. -/
lemma leads_appendCopy {template : NodeId} (h : template ∈ stored.templates) (ready : List NodeId) :
    Leads (Ready (φ.own stored) ready) (appendCopy φ.node template)
      (fun copy => Ready (φ.own stored) (ready ++ [copy])) fun _ => Intact (φ.own stored) := by
  rintro s ⟨hnodup, t, ht, hready⟩
  obtain ⟨s', u, e, hu, helement, hjump, -⟩ := ht.appendCopy (ht.templates_subset h)
  rw [show appendCopy φ.node template s = (.ok u.label, s') from e]
  obtain ⟨tag, attrs, hidden, children, rfl⟩ := ht.exists_element
  have hlabels : (children.map Tree.label ++ [u.label]).Nodup := by
    simpa [Tree.children, Tree.setChildren] using hu.nodup_children
  refine ⟨?_, _, hu, fun m hm => ?_⟩
  · refine List.nodup_append.2 ⟨hnodup, List.nodup_singleton _, fun m hm _ hlast => ?_⟩
    obtain ⟨v, hv, rfl, -⟩ := hready m hm
    exact (List.nodup_append.1 hlabels).2.2 _ (List.mem_map_of_mem hv) _ hlast
  · rcases List.mem_append.1 hm with hm | hm
    · obtain ⟨v, hv, hkept⟩ := hready m hm
      exact ⟨v, List.mem_append_left _ hv, hkept⟩
    · obtain rfl := List.mem_singleton.1 hm
      exact ⟨u, List.mem_append_right _ List.mem_cons_self, rfl, helement, hjump⟩

/-- Copies of templates that are held are children that can be walked. -/
lemma leads_appendCopies {serving : List (NodeId × Value)}
    (h : ∀ copy ∈ serving, copy.1 ∈ stored.templates) :
    Leads (Intact (φ.own stored)) (appendCopies φ.node serving)
      (fun copies => Ready (φ.own stored) (copies.map Prod.fst)) fun _ =>
        Intact (φ.own stored) := by
  have hcopies := Leads.mapM
    (fun copies : List (NodeId × Value) => Ready (φ.own stored) (copies.map Prod.fst))
    (f := fun copy : NodeId × Value => do return (← appendCopy φ.node copy.1, copy.2)) serving
    fun copy hcopy ready => (leads_appendCopy (h copy hcopy) (ready.map Prod.fst)).bind
      fun n s hs => by
        show Ready (φ.own stored) ((ready ++ [(n, copy.2)]).map Prod.fst) s
        rwa [List.map_append]
  exact (hcopies []).mono (fun _ => Intact.ready) (fun _ _ h => h) fun _ _ h => h

variable {c : Setting} {scope : Value} {operand : String} {walk : ElementWalk}

/-- Going on to the next item leaves what stands in the surroundings. -/
lemma keeps_advance (ordered : Bool) : Runs (Keeping (Intact φ)) Unit (advance ordered) := by
  cases ordered with
  | true => exact fun s hs => ofForest_stands s _ rfl rfl hs
  | false => exact course_stands.refl

/-- An element is filled with one serving. -/
lemma leads_serving (hwalk : ∀ scope isItem, Confined φ.dialect fun n => walk n scope isItem)
    {serving : List (NodeId × Value)} (h : ∀ copy ∈ serving, copy.1 ∈ stored.templates)
    (ordered : Bool) :
    Leads (Intact (φ.own stored)) (do advance ordered; serve walk φ.node serving)
      (fun _ => Intact (φ.own stored)) fun _ => Intact (φ.own stored) := by
  refine (Leads.of_keeping (keeps_advance ordered)).bind fun _ => ?_
  refine (leads_appendCopies (φ := φ) h).bind fun copies => ?_
  have hcopies := Leads.forM
    (fun copies : List (NodeId × Value) => Ready (φ.own stored) (copies.map Prod.fst))
    (f := fun copy => walk copy.1 copy.2 true) copies fun copy todo =>
      leads_child (φ := φ.own stored) (hwalk copy.2 true) copy.1 (todo.map Prod.fst)
  exact hcopies.mono (fun _ h => h) (fun _ _ h => h.intact) fun _ _ h => h

/-- An element is filled with one serving after another. -/
lemma leads_serveAll (hwalk : ∀ scope isItem, Confined φ.dialect fun n => walk n scope isItem)
    (servings : List (List (NodeId × Value))) (ordered : Bool) :
    Leads (Supplied φ servings) (Walk.counting ordered (serveAll walk φ.node ordered servings))
      (fun _ => Intact φ) fun _ => Intact φ := by
  rintro s ⟨stored, hs, htemplates⟩
  have hserve := Leads.forM
    (fun servings s => Intact (φ.own stored) s ∧
      ∀ serving ∈ servings, ∀ copy ∈ serving, copy.1 ∈ stored.templates)
    (f := fun serving => do
      advance ordered
      serve walk φ.node serving) servings fun serving later s hserving => by
    have hall := leads_serving hwalk (hserving.2 serving List.mem_cons_self) ordered
    refine (hall.mono (fun _ h => h) (fun _ s hs => ⟨hs, ?_⟩) fun _ _ h => h) s hserving.1
    exact fun serving hs => hserving.2 serving (List.mem_cons_of_mem _ hs)
  have hcounting := Leads.counting (q := Intact (φ.own stored)) ofForest_stands ofForest_stands
    (hserve.mono (fun _ (h : Intact (φ.own stored) _) => ⟨h, htemplates⟩) (fun _ _ h => h.1)
      fun _ _ h => h) ordered
  exact (hcounting.mono (fun _ h => h) (fun _ _ h => h.release) fun _ _ h => h.release) s hs.intact

/-! ## Content -/

/-- What stands in the surroundings when an element is filled: no jumps below it if there is a scope
for the elements there. -/
def Filled (φ : Surroundings) : Option Value → State → Prop
  | some _ => Plain φ
  | none => Intact φ

/-- A list or a map is filled with copies. -/
lemma leads_execute_copies
    (hwalk : ∀ scope isItem, Confined φ.dialect fun n => walk n scope isItem)
    (honly : ∀ n scope isItem, OnlyAssertions (walk n scope isItem)) {operator : ContentOperator}
    {ordered : Bool} (hop : operator.ordered? = some ordered) :
    Leads (Plain φ) (operator.execute c walk φ.node scope operand) (Filled φ)
      fun _ => Intact φ := by
  have hfallback : operator.fallback = none := by
    cases operator with
    | list _ => rfl
    | map _ => rfl
    | _ => cases hop
  rw [ContentOperator.execute, hfallback, ContentOperator.run_eq hop]
  have hservings : Leads (Plain φ) (operator.servings c φ.node scope operand) (Supplied φ)
      fun stop s => Intact φ s ∧ ∀ f, stop = .fault f → f.faultClass = .content → Plain φ s :=
    (leads_servings hop).mono (fun _ h => h) (fun _ _ h => h) fun _ _ h =>
      ⟨h.intact, fun _ _ _ => h⟩
  refine Leads.guarded course_stands course_stands (hservings.bind fun servings => ?_)
    (stocking_plain.undoContent decorating_plain.removeText operator) (fun _ h => h.intact)
    (fun _ h => h.intact) fun _ h => h
  -- only an assertion stops the walk of a copy, so the operator is not undone among copies
  have hserve := (leads_serveAll hwalk servings ordered).onlyAssertions
    (OnlyAssertions.counting (OnlyAssertions.serveAll honly φ.node ordered servings))
  refine (hserve.mono (fun _ h => h) (fun _ _ h => h) fun stop s h => ⟨h.1, fun f hf hc => ?_⟩).bind
    fun _ => Leads.pure fun _ h => h
  cases (h.2 f hf).symm.trans hc

/-- An element is filled with something else. -/
lemma leads_execute_poured {operator : ContentOperator} (hop : operator.ordered? = none)
    (hfallback : operator.fallback = none) {w : Walk Unit}
    (hw : Runs (Keeping (Intact φ)) Unit w) :
    Leads (Plain φ) (guarded φ.node (.content operator) operand (operator.undo φ.node)
      operator.fallback none (do w; return none)) (Filled φ) fun _ => Intact φ := by
  rw [hfallback]
  have hact : Leads (Intact φ) (do w; return none) (Filled φ) fun stop s =>
      Intact φ s ∧ ∀ f, stop = .fault f → f.faultClass = .content → Intact φ s :=
    ((Leads.of_keeping hw).mono (fun _ h => h) (fun _ _ h => h)
      fun _ _ h => ⟨h, fun _ _ _ => h⟩).bind fun _ => Leads.pure fun _ h => h
  have hguarded : Leads (Intact φ) (guarded φ.node (.content operator) operand
      (operator.undo φ.node) none none (do w; return none)) (Filled φ) fun _ => Intact φ :=
    Leads.guarded course_stands course_stands hact (plainFilling_intact.undoContent hop)
      (fun _ h => h) (fun _ h => h) fun _ h => h
  exact hguarded.mono (fun _ h => h.intact) (fun _ _ h => h) fun _ _ h => h

/-- A scope is opened for the elements below. -/
lemma leads_execute_object : Leads (Plain φ)
    (ContentOperator.object.execute c walk φ.node scope operand) (Filled φ) fun _ => Intact φ := by
  have hread : Leads (Plain φ) (ContentOperator.runObject c scope operand) (fun _ => Plain φ)
      fun stop s => Intact φ s ∧ ∀ f, stop = .fault f → f.faultClass = .content → Plain φ s :=
    (Leads.of_keeping (course_stands.closed.runObject)).mono (fun _ h => h) (fun _ _ h => h)
      fun _ _ h => ⟨h.intact, fun _ _ _ => h⟩
  have hact : Leads (Plain φ) (ContentOperator.object.run c walk φ.node scope operand) (Filled φ)
      fun stop s => Intact φ s ∧ ∀ f, stop = .fault f → f.faultClass = .content → Plain φ s :=
    hread.bind fun value => Leads.pure fun s h => (h : Filled φ (some value) s)
  exact Leads.guarded course_stands course_stands hact (course_stands.closed.pure ())
    (fun _ h => h.intact) (fun s h => (h : Filled φ (some .null) s))
    fun s h => (h : Filled φ none s)

/-- The operator that fills an element leaves its surroundings as they are. -/
lemma leads_execute (hwalk : ∀ scope isItem, Confined φ.dialect fun n => walk n scope isItem)
    (honly : ∀ n scope isItem, OnlyAssertions (walk n scope isItem)) (operator : ContentOperator) :
    Leads (Plain φ) (operator.execute c walk φ.node scope operand) (Filled φ)
      fun _ => Intact φ := by
  cases operator with
  | text => exact leads_execute_poured rfl rfl plainFilling_intact.runText
  | html => exact leads_execute_poured rfl rfl plainFilling_intact.runHtml
  | object => exact leads_execute_object
  | list _ => exact leads_execute_copies hwalk honly rfl
  | map _ => exact leads_execute_copies hwalk honly rfl
  | numbering => exact leads_execute_poured rfl rfl plainFilling_intact.runNumbering
  | options => exact leads_execute_poured rfl rfl plainFilling_intact.runOptions

/-- The content of an element is filled, and what is below it is walked. -/
lemma leads_fill (hwalk : ∀ scope isItem, Confined φ.dialect fun n => walk n scope isItem)
    (honly : ∀ n scope isItem, OnlyAssertions (walk n scope isItem)) (ds : Directives)
    (isItem : Bool) :
    Leads (Plain φ) (c.fill walk φ.node ds scope isItem) (fun _ => Intact φ)
      fun _ => Intact φ := by
  rw [Setting.fill_eq]
  have hoperator : Leads (Plain φ) (contentOperator φ.node ds isItem) (fun _ => Plain φ)
      fun _ => Intact φ :=
    (Leads.of_keeping ((course_stands.closed.element _).contentOperator ds isItem)).mono
      (fun _ h => h)
      (fun _ _ h => h) fun _ _ h => h.intact
  refine hoperator.bind fun content? => (?_ : Leads _ _ (Filled φ) _).bind fun inner? => ?_
  · cases content? with
    | none => exact Leads.pure fun _ h => h
    | some declared => exact leads_execute hwalk honly declared.1
  · cases inner? with
    | none => exact Leads.pure fun _ h => h
    | some inner => exact leads_below (hwalk inner false)

/-! ## Whole walks -/

/-- Without a jump there is no target to look for. -/
lemma jumpTarget_of_none {ds : Directives} (h : ds.jump? = none) : jumpTarget ds = pure none := by
  rw [jumpTarget, h]
  rfl

/-- Where an element declares no jump, a scope is injected into it and nothing else. -/
lemma leads_injectDirectives
    (hwalk : ∀ scope isItem, Confined φ.dialect fun n => walk n scope isItem)
    (honly : ∀ n scope isItem, OnlyAssertions (walk n scope isItem)) {ds : Directives}
    (hds : ds.jump? = none) (isItem : Bool) :
    Leads (Plain φ) (c.injectDirectives walk φ.node ds scope isItem) (fun _ => Intact φ)
      fun _ => Intact φ := by
  have hfill : Leads (Plain φ) (c.fill walk φ.node ds scope isItem) (fun _ => Intact φ)
      fun _ => Intact φ := leads_fill hwalk honly ds isItem
  rw [Setting.injectDirectives, jumpTarget_of_none hds, pure_bind]
  dsimp only
  split
  · exact hfill
  · refine ((Leads.of_keeping (decorating_plain.decorate (c := c) ds)).mono (fun _ h => h)
      (fun _ _ h => h) fun _ _ h => h.intact).bind fun goesOn => ?_
    cases goesOn with
    | true => exact hfill
    | false => exact Leads.pure fun _ h => h.intact

/-- An element that jumps do not leave declares none. -/
lemma leads_directives : Leads (Open φ) (directives φ.dialect φ.node)
    (fun ds s => ds.jump? = none ∧ Plain φ s) fun _ => Intact φ := by
  rintro s ⟨t, h, hjump⟩
  simp only [directives, run_bind_of_ok (run_node h.find?)]
  have hplain : Plain φ s := ⟨t, h, (Tree.jumpFree_iff.1 hjump).2⟩
  cases hds : Directives.ofAttrs φ.dialect t.describe t.attrs with
  | ok ds => exact ⟨Directives.jump?_eq_none hds (Tree.jumpFree_iff.1 hjump).1, hplain⟩
  | error cause => exact hplain.intact

/-- Where there is no room, nothing is done. -/
lemma leads_refuseDepth : Leads (Open φ) (refuseDepth φ.node : Walk Unit) (fun _ => Intact φ)
    fun _ => Intact φ :=
  (Leads.of_keeping (((course_keeping ofForest_open).closed.element _).refuseDepth)).mono
    (fun _ h => h)
    (fun _ _ h => h.plain.intact) fun _ _ h => h.plain.intact

/-- An element whose directives are read is left as it is. -/
lemma leads_of_directives {f : Directives → Walk Unit}
    (h : ∀ ds : Directives, ds.jump? = none →
      Leads (Plain φ) (f ds) (fun _ => Intact φ) fun _ => Intact φ) :
    Leads (Open φ) (deeper (directives φ.dialect φ.node >>= f)) (fun _ => Intact φ)
      fun _ => Intact φ :=
  Leads.deeper ofForest_open ofForest_stands
    (leads_directives.bind fun ds s hs => h ds hs.1 s hs.2)

/-- Injecting a scope into an element leaves its surroundings as they are. -/
lemma confined_inject (c : Setting) (room : Nat) (scope : Value) (isItem : Bool) :
    Confined c.engine.dialect fun n => c.inject room n scope isItem := by
  induction room generalizing scope isItem with
  | zero => exact fun φ _ => leads_refuseDepth
  | succ room ih =>
    intro φ hφ
    show Leads _ (deeper do
      c.injectDirectives (c.inject room) φ.node (← directives c.engine.dialect φ.node) scope isItem)
      _ _
    rw [← hφ] at ih ⊢
    exact leads_of_directives fun ds hds =>
      leads_injectDirectives ih (OnlyAssertions.inject c room) hds isItem

/-- Injecting a value into an element by itself leaves its surroundings as they are. -/
lemma confined_injectSubtree (c : Setting) (room : Nat) (scope : Value) :
    Confined c.engine.dialect fun n => c.injectSubtree room n scope := by
  intro φ hφ
  cases room with
  | zero => exact leads_refuseDepth
  | succ room =>
    show Leads _ (deeper do
      let ds ← directives c.engine.dialect φ.node
      let ds ← check (ds.forSubtree (← node φ.node).describe)
      c.injectDirectives (c.inject room) φ.node ds scope false) _ _
    have ih := confined_inject c room
    rw [← hφ] at ih ⊢
    refine leads_of_directives fun ds hds => ?_
    refine ((Leads.of_keeping (course_stands.closed.node φ.node)).mono (fun _ h => h)
      (fun _ _ h => h) fun _ _ h => h.intact).bind fun t => ?_
    cases hsub : ds.forSubtree t.describe with
    | error cause =>
      rw [check_error_bind]
      exact fun s hs => hs.intact
    | ok ds' =>
      rw [check_ok_bind]
      exact leads_injectDirectives ih (OnlyAssertions.inject c room)
        ((Directives.forSubtree_eq_ok hsub).1.trans hds) false

/-- Resetting an element leaves its surroundings as they are. -/
lemma confined_reset (dialect : Dialect) (room : Nat) :
    Confined dialect (reset dialect room) := by
  induction room with
  | zero => exact fun φ _ => leads_refuseDepth
  | succ room ih =>
    intro φ hφ
    show Leads _ (deeper do
      resetDirectives (reset dialect room) φ.node (← directives dialect φ.node)) _ _
    rw [← hφ] at ih ⊢
    refine leads_of_directives fun ds hds => ?_
    rw [resetDirectives_eq _ _ hds]
    have hplain {w : Walk Unit} (hw : Runs (Keeping (Plain φ)) Unit w) :
        Leads (Plain φ) w (fun _ => Plain φ) fun _ => Intact φ :=
      (Leads.of_keeping hw).mono (fun _ h => h) (fun _ _ h => h) fun _ _ h => h.intact
    refine (hplain (decorating_plain.undoAttributes ds)).bind fun _ => ?_
    refine (hplain (decorating_plain.unhide ds)).bind fun _ => ?_
    refine (hplain ((course_stands.closed.element _).unfill (fun operator =>
      stocking_plain.undoContent decorating_plain.removeText operator) ds)).bind fun _ => ?_
    exact leads_below ih

end Walk

end TreeTemplate
