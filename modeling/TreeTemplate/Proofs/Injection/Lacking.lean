import TreeTemplate.Proofs.Injection.Clauses
import TreeTemplate.Proofs.Injection.SameFrom

/-!
# What the model lacks counts as null

An operator does where the model lacks what it reads what it does for null, and one fault more is
recorded. For an operator that reads several paths this holds path by path. It is shown for two
scopes: in one the path gives null, in the other one the model lacks it.

Main statements:

* `AttributeOperator.lacking_same`, `ContentOperator.lacking_same` — operators that read one path;
* `execute_lacking` — all operators that read paths.
-/

namespace TreeTemplate

/-! ## Operators that read one path -/

/-- Operators of attributes that read their operand as a path. -/
def AttributeOperator.readsPath : AttributeOperator → Bool
  | named _ | value => true
  | attributes | classes => false

/-- Operators of content that read their operand as a path. -/
def ContentOperator.readsPath : ContentOperator → Bool
  | numbering => false
  | text | html | object | list _ | map _ | options => true

/-- Looks up what an operator is filled from, as far as the model can lack it. -/
def ContentOperator.lookUp (model scope : Value) (operand : String) :
    ContentOperator → Except Cause Unit
  | list _ => (Path.readItems model scope operand).map fun _ => ()
  | map _ => (Path.readEntries model scope operand).map fun _ => ()
  | object => do
    let value ← Path.read model scope operand
    if value.isNull || operand = "." || value.isComposite then .ok ()
    else .error (.expectedComposite operand value.kind)
  | text | html | numbering | options => (Path.read model scope operand).map fun _ => ()

variable {c : Setting} {s : Walk.State} {n : NodeId} {t : Tree NodeId}
  {scope scope' : Value} {operand : String} {cause : Cause}

/-- An operator of attributes that reads one path. -/
lemma AttributeOperator.lacking_same {operator : AttributeOperator}
    (hreads : operator.readsPath = true) (hn : s.document.find? n = some t)
    (hnull : Path.read c.model scope operand = .ok .null)
    (hlacks : Path.read c.model scope' operand = .error cause)
    (hcause : cause.faultClass = .content) :
    Walk.SameFrom s (Operator.Adds (.attr operator) operand cause)
      (operator.execute c n scope operand) (operator.execute c n scope' operand) := by
  have hnode : Walk.node n s = (.ok t, s) := Walk.run_node hn
  cases operator with
  | attributes => cases hreads
  | classes => cases hreads
  | named which =>
    by_cases hsource : (which = .src && !t.hasTag sourceTags) = true
    · have hrefuse (scope : Value) : (named which).run c n scope operand s =
          (.error (.fault ⟨.unsupported (.attr (.named which)) t.describe, none⟩), s) := by
        simp only [run, setNamed, Walk.run_bind_of_ok hnode, hsource, if_true]
        rfl
      exact Walk.sameFrom_of_assertion (hrefuse scope) (hrefuse scope')
        (fun f hf => by cases hf; rfl) rfl
    · refine Walk.sameFrom_of_recordsNothing ?_ ?_ hcause hn
        (Walk.recordsNothing_putAttribute n which.name none s)
      · simp only [run, setNamed, Walk.run_bind_of_ok hnode, hsource, Setting.read, hnull,
          Walk.check_ok_bind, attributeText?, Bool.false_eq_true, if_false, undo, bind_pure_unit]
      · simp only [run, setNamed, Walk.run_bind_of_ok hnode, hsource, Setting.read, hlacks,
          Walk.check_error_bind, Bool.false_eq_true, if_false]
        rfl
  | value =>
    have hundo : Walk.RecordsNothing (removeValue n) s := by
      unfold removeValue
      have hgo : ∀ w : Tree NodeId → Walk Unit, (Walk.node n >>= w) s = w t s :=
        fun w => Walk.run_bind_of_ok hnode
      unfold Walk.RecordsNothing
      rw [hgo]
      split
      · exact Walk.recordsNothing_putAttribute n "value" none s
      · exact Walk.recordsNothing_edit n _ s
    refine Walk.sameFrom_of_recordsNothing ?_ ?_ hcause hn hundo
    · simp only [run, setValue, Setting.read, hnull, Walk.check_ok_bind, Value.isNull, undo,
        bind_pure_unit]
      rfl
    · simp only [run, setValue, Setting.read, hlacks, Walk.check_error_bind]
      rfl

namespace ContentOperator

variable {walk : ElementWalk}

/-- A list or a map is left without copies for null, as it is where it is undone. -/
lemma lacking_stock {σ γ : Type} {operator : ContentOperator} (take : Walk σ)
    (found : Value → Except Cause (List γ)) (fillEach : σ → List γ → Walk Unit)
    (hfallback : operator.fallback = none)
    (hrun : ∀ scope, scope.isNull = false → operator.run c walk n scope operand = (do
      let templates ← take
      Walk.clear n
      let items ← Walk.check (found scope)
      fillEach templates items
      return none))
    (hempty : ∀ templates, fillEach templates [] = pure ()) (htake : Walk.OnlyAssertions take)
    (hquiet : Walk.Runs (fun s s' => s'.diagnostics = s.diagnostics) σ take)
    (hwhole : Walk.Runs (Walk.Keeping Walk.IdentitiesOnce) σ take)
    (hundo : ∀ templates s₁ s₂, take s = (.ok templates, s₁) → Walk.clear n s₁ = (.ok (), s₂) →
      operator.undo n s₂ = (.ok (), s₂))
    (hs : Walk.IdentitiesOnce s) (hscope : scope.isNull = false) (hscope' : scope'.isNull = false)
    (hnull : found scope = .ok []) (hlacks : found scope' = .error cause)
    (hcause : cause.faultClass = .content) :
    Walk.SameFrom s (Operator.Adds (.content operator) operand cause)
      (operator.execute c walk n scope operand) (operator.execute c walk n scope' operand) := by
  unfold execute
  rw [hrun scope hscope, hrun scope' hscope', hnull, hlacks, hfallback]
  -- both take the templates and clear the element before what they find matters
  rcases etake : take s with ⟨stop | templates, s₁⟩
  · refine Walk.sameFrom_of_assertion (Walk.run_bind_of_error etake) (Walk.run_bind_of_error etake)
      (fun f hf => htake (hf ▸ etake)) (hquiet.of_error etake)
  rcases eclear : Walk.clear n s₁ with ⟨stop | _, s₂⟩
  · refine Walk.sameFrom_of_assertion
      ((Walk.run_bind_of_ok etake).trans (Walk.run_bind_of_error eclear))
      ((Walk.run_bind_of_ok etake).trans (Walk.run_bind_of_error eclear))
      (fun f hf => Walk.OnlyAssertions.clear n (hf ▸ eclear)) ?_
    exact ((Walk.quiet_clear n).of_error eclear).trans (hquiet.of_ok etake)
  · obtain ⟨-, ⟨t, hn⟩, -⟩ := Walk.clear_again (hwhole.of_ok etake hs) eclear
    have hcleared {α : Type} (w : σ → Walk α) : (do
        let templates ← take
        Walk.clear n
        w templates : Walk α) s = w templates s₂ := by
      rw [Walk.run_bind_of_ok etake, Walk.run_bind_of_ok eclear]
    refine Walk.sameFrom_of_undo (hcleared _ |>.trans ?_) (hcleared _ |>.trans ?_) hcause hn
      (hundo templates s₁ s₂ etake eclear)
      (((Walk.quiet_clear n).of_ok eclear).trans (hquiet.of_ok etake))
    · rw [Walk.check_ok_bind, hempty templates]
      rfl
    · rw [Walk.check_error_bind]
      rfl

/-- A composite value is not null. -/
lemma isNull_of_isComposite {value : Value} (h : value.isComposite = true) :
    value.isNull = false := by
  cases value <;> first | rfl | cases h

/-- A text that the model lacks is filled in like null, and one diagnostic more is recorded. -/
lemma lacking_text (hn : s.document.find? n = some t) (hgo : scope.isNull = false)
    (hgo' : scope'.isNull = false) (hnull : Path.read c.model scope operand = .ok .null)
    (hlacks : Path.read c.model scope' operand = .error cause)
    (hcause : cause.faultClass = .content) :
    Walk.SameFrom s (Operator.Adds (.content text) operand cause)
      (text.execute c walk n scope operand) (text.execute c walk n scope' operand) := by
  have hnode : Walk.node n s = (.ok t, s) := Walk.run_node hn
  by_cases helements : (!t.elements.isEmpty) = true
  · have hrefuse (scope : Value) (hgo : scope.isNull = false) :
        text.run c walk n scope operand s =
          (.error (.fault ⟨.textAroundElements t.describe, none⟩), s) := by
      refine Walk.run_bind_of_error ?_
      simp only [runText, hgo, Bool.false_eq_true, if_false, Walk.run_bind_of_ok hnode, helements,
        if_true]
      rfl
    exact Walk.sameFrom_of_assertion (hrefuse scope hgo) (hrefuse scope' hgo')
      (fun f hf => by cases hf; rfl) rfl
  · refine Walk.sameFrom_of_recordsNothing ?_ ?_ hcause hn
      (Walk.recordsNothing_edit n (fun n d => d.removeText? n) s)
    · simp only [run, runText, hgo, Bool.false_eq_true, if_false, bind_assoc,
        Walk.run_bind_of_ok hnode, helements, Setting.read, hnull, Walk.check_ok_bind]
      rfl
    · refine Walk.run_bind_of_error ?_
      simp only [runText, hgo', Bool.false_eq_true, if_false, Walk.run_bind_of_ok hnode,
        helements, Setting.read, hlacks, Walk.check_error_bind]
      rfl

/-- Markup that the model lacks is filled in like null, and one diagnostic more is recorded. -/
lemma lacking_html (hn : s.document.find? n = some t)
    (hgo : scope.isNull = false) (hgo' : scope'.isNull = false)
    (hnull : Path.read c.model scope operand = .ok .null)
    (hlacks : Path.read c.model scope' operand = .error cause)
    (hcause : cause.faultClass = .content) :
    Walk.SameFrom s (Operator.Adds (.content html) operand cause)
      (html.execute c walk n scope operand) (html.execute c walk n scope' operand) := by
  refine Walk.sameFrom_of_recordsNothing ?_ ?_ hcause hn (Walk.recordsNothing_clear n s)
  · simp only [run, runHtml, hgo, Bool.false_eq_true, if_false, Setting.read, hnull,
      Walk.check_ok_bind]
    rfl
  · refine Walk.run_bind_of_error ?_
    simp only [runHtml, hgo', Bool.false_eq_true, if_false, Setting.read, hlacks,
      Walk.check_error_bind]
    rfl

/-- Below an object that the model lacks the scope is null, as it is below one that is null. -/
lemma lacking_object (hn : s.document.find? n = some t) (hgo : scope.isNull = false)
    (hgo' : scope'.isNull = false) (hnull : Path.read c.model scope operand = .ok .null)
    (hlacks : object.lookUp c.model scope' operand = .error cause)
    (hcause : cause.faultClass = .content) :
    Walk.SameFrom s (Operator.Adds (.content object) operand cause)
      (object.execute c walk n scope operand) (object.execute c walk n scope' operand) := by
  have hopens : runObject c scope operand = pure .null := by
    simp only [runObject, hgo, Bool.false_eq_true, if_false, Setting.read, hnull,
      Walk.check_ok_bind]
    rfl
  have hrefuses : runObject c scope' operand = Walk.refuse cause := by
    simp only [runObject, hgo', Bool.false_eq_true, if_false, Setting.read]
    cases hread : Path.read c.model scope' operand with
    | error found =>
      simp only [lookUp, hread] at hlacks
      cases hlacks
      rfl
    | ok value =>
      simp only [lookUp, hread, bind, Except.bind] at hlacks
      rw [Walk.check_ok_bind]
      split at hlacks
      · cases hlacks
      · rename_i hscalar
        cases hlacks
        exact if_neg hscalar
  have hrun : object.run c walk n scope operand s = (.ok (some .null), s) := by
    simp only [run, hopens]
    rfl
  have hfail : object.run c walk n scope' operand s = (.error (.fault ⟨cause, none⟩), s) := by
    simp only [run, hrefuses]
    rfl
  exact Walk.sameFrom_of_undo hrun hfail hcause hn rfl rfl

/-- Options that the model lacks are filled in like null, and one diagnostic more is recorded. -/
lemma lacking_options (hn : s.document.find? n = some t)
    (hgo : scope.isNull = false) (hgo' : scope'.isNull = false)
    (hnull : Path.read c.model scope operand = .ok .null)
    (hlacks : Path.read c.model scope' operand = .error cause)
    (hcause : cause.faultClass = .content) :
    Walk.SameFrom s (Operator.Adds (.content options) operand cause)
      (options.execute c walk n scope operand) (options.execute c walk n scope' operand) := by
  have hnode : Walk.node n s = (.ok t, s) := Walk.run_node hn
  by_cases htag : (!t.hasTag ["select"]) = true
  · have hrefuse (scope : Value) : options.run c walk n scope operand s =
        (.error (.fault ⟨.unsupported (.content .options) t.describe, none⟩), s) := by
      refine Walk.run_bind_of_error ?_
      simp only [runOptions, Walk.run_bind_of_ok hnode, htag, if_true]
      rfl
    exact Walk.sameFrom_of_assertion (hrefuse scope) (hrefuse scope')
      (fun f hf => by cases hf; rfl) rfl
  · refine Walk.sameFrom_of_recordsNothing ?_ ?_ hcause hn (Walk.recordsNothing_clear n s)
    · simp only [run, runOptions, bind_assoc, Walk.run_bind_of_ok hnode, htag,
        Bool.false_eq_true, if_false, hgo, Setting.read, hnull, Walk.check_ok_bind]
      rfl
    · refine Walk.run_bind_of_error ?_
      simp only [runOptions, Walk.run_bind_of_ok hnode, htag, Bool.false_eq_true, if_false, hgo',
        Setting.read, hlacks, Walk.check_error_bind]
      rfl

/-- A list that the model lacks is filled in like null, and one diagnostic more is recorded. -/
lemma lacking_list {ordered : Bool} (hs : Walk.IdentitiesOnce s) (hgo : scope.isNull = false)
    (hgo' : scope'.isNull = false) (hnull : Path.read c.model scope operand = .ok .null)
    (hlacks : Path.readItems c.model scope' operand = .error cause)
    (hcause : cause.faultClass = .content) :
    Walk.SameFrom s (Operator.Adds (.content (list ordered)) operand cause)
      ((list ordered).execute c walk n scope operand)
      ((list ordered).execute c walk n scope' operand) := by
  have hfound : Path.readItems c.model scope operand = .ok [] := by
    simp only [Path.readItems, hnull]
    rfl
  exact lacking_stock (Walk.itemTemplate n) (fun scope => Path.readItems c.model scope operand)
    (fun template items => Walk.counting ordered <| items.forM fun item => do
      Walk.advance ordered
      let copy ← Walk.appendCopy n template
      walk copy item true) rfl
    (fun scope hgo => by simp only [run, runList, hgo, Bool.false_eq_true, if_false, bind_assoc])
    (fun _ => counting_pure ordered) (Walk.OnlyAssertions.taking.itemTemplate n)
    (Walk.taking_quiet.itemTemplate n) (Walk.taking_identitiesOnce.itemTemplate n)
    (fun _ _ _ => Walk.undo_list hs) hs hgo hgo' hfound hlacks hcause

/-- A map that the model lacks is filled in like null, and one diagnostic more is recorded. -/
lemma lacking_map {ordered : Bool} (hs : Walk.IdentitiesOnce s) (hgo : scope.isNull = false)
    (hgo' : scope'.isNull = false) (hnull : Path.read c.model scope operand = .ok .null)
    (hlacks : Path.readEntries c.model scope' operand = .error cause)
    (hcause : cause.faultClass = .content) :
    Walk.SameFrom s (Operator.Adds (.content (map ordered)) operand cause)
      ((map ordered).execute c walk n scope operand)
      ((map ordered).execute c walk n scope' operand) := by
  have hfound : Path.readEntries c.model scope operand = .ok [] := by
    simp only [Path.readEntries, hnull]
    rfl
  exact lacking_stock (Walk.entryTemplates n)
    (fun scope => Path.readEntries c.model scope operand)
    (fun templates entries => Walk.counting ordered <| entries.forM fun entry => do
      Walk.advance ordered
      let keyCopy ← Walk.appendCopy n templates.1
      let valueCopy ← Walk.appendCopy n templates.2
      walk keyCopy (.string entry.1) true
      walk valueCopy entry.2 true) rfl
    (fun scope hgo => by simp only [run, runMap, hgo, Bool.false_eq_true, if_false, bind_assoc])
    (fun _ => counting_pure ordered) (Walk.OnlyAssertions.taking.entryTemplates n)
    (Walk.taking_quiet.entryTemplates n) (Walk.taking_identitiesOnce.entryTemplates n)
    (fun _ _ _ => Walk.undo_map hs) hs hgo hgo' hfound hlacks hcause

/-- An operator of content that reads one path. -/
lemma lacking_same {operator : ContentOperator} (hreads : operator.readsPath = true)
    (hs : Walk.IdentitiesOnce s) (hn : s.document.find? n = some t)
    (hscope : scope.isComposite = true) (hscope' : scope'.isComposite = true)
    (hnull : Path.read c.model scope operand = .ok .null)
    (hlacks : operator.lookUp c.model scope' operand = .error cause)
    (hcause : cause.faultClass = .content) :
    Walk.SameFrom s (Operator.Adds (.content operator) operand cause)
      (operator.execute c walk n scope operand) (operator.execute c walk n scope' operand) := by
  have hgo := isNull_of_isComposite hscope
  have hgo' := isNull_of_isComposite hscope'
  cases operator with
  | numbering => cases hreads
  | text => exact lacking_text hn hgo hgo' hnull (error_of_map hlacks) hcause
  | html => exact lacking_html hn hgo hgo' hnull (error_of_map hlacks) hcause
  | object => exact lacking_object hn hgo hgo' hnull hlacks hcause
  | options => exact lacking_options hn hgo hgo' hnull (error_of_map hlacks) hcause
  | list ordered => exact lacking_list hs hgo hgo' hnull (error_of_map hlacks) hcause
  | map ordered => exact lacking_map hs hgo hgo' hnull (error_of_map hlacks) hcause

end ContentOperator

/-- In two composite scopes operators do the same where a path that they read gives null in the
first scope and the model lacks it in the second one: they leave the same state and have the same
result, apart from what they record. An operator that reads its operand as a path records one fault
more in the second scope, unless it stops in both; one with clauses or statements records one fault
more for each of the paths that it evaluates and that the model lacks. -/
theorem execute_lacking {c : Setting} {s : Walk.State} {ts : List (Tree NodeId)}
    (hs : s.document.Has ts) {n : NodeId} {t : Tree NodeId} (hn : s.document.find? n = some t)
    {scope scope' : Value} (hscope : scope.isComposite = true) (hscope' : scope'.isComposite = true)
    (operand : String) :
    (∀ operator : AttributeOperator, operator.readsPath = true → ∀ cause,
      Path.read c.model scope operand = .ok .null →
      Path.read c.model scope' operand = .error cause → cause.faultClass = .content →
      Walk.SameFrom s (Operator.Adds (.attr operator) operand cause)
        (operator.execute c n scope operand) (operator.execute c n scope' operand)) ∧
    (∀ operator : ContentOperator, operator.readsPath = true → ∀ walk cause,
      Path.read c.model scope operand = .ok .null →
      operator.lookUp c.model scope' operand = .error cause → cause.faultClass = .content →
      Walk.SameFrom s (Operator.Adds (.content operator) operand cause)
        (operator.execute c walk n scope operand) (operator.execute c walk n scope' operand)) ∧
    (let paths := Clause.pathsOf (·.value?.toList) operand;
      (∀ path ∈ paths, Path.SameOrLacking c.model scope scope' path) →
      Walk.SameFrom s (Path.Noted c.model scope scope' (.attr .attributes) operand paths)
        (AttributeOperator.attributes.execute c n scope operand)
        (AttributeOperator.attributes.execute c n scope' operand)) ∧
    (let paths := Clause.pathsOf (·.classPaths c.model scope operand) operand;
      (∀ path ∈ paths, Path.SameOrLacking c.model scope scope' path) →
      Walk.SameFrom s (Path.Noted c.model scope scope' (.attr .classes) operand paths)
        (AttributeOperator.classes.execute c n scope operand)
        (AttributeOperator.classes.execute c n scope' operand)) ∧
    (let paths := Condition.evaluatedOf c.model scope (Condition.parse operand);
      (∀ path ∈ paths, Path.SameOrLacking c.model scope scope' path) →
      Walk.SameFrom s (Path.Noted c.model scope scope' (.conditional .condition) operand paths)
        (ConditionalOperator.condition.execute c n scope operand)
        (ConditionalOperator.condition.execute c n scope' operand)) := by
  refine ⟨fun operator hreads cause hnull hlacks hcause => ?_,
    fun operator hreads walk cause hnull hlacks hcause => ?_, fun hpaths => ?_, fun hpaths => ?_,
    fun hpaths => ?_⟩
  · exact AttributeOperator.lacking_same hreads hn hnull hlacks hcause
  · exact ContentOperator.lacking_same hreads ⟨ts, hs⟩ hn hscope hscope' hnull hlacks hcause
  · refine (Walk.Alike.ofClauses (fun clause h => Walk.Alike.setClause fun path hpath => ?_)
      hpaths).sameFrom hn
    exact h path (Option.mem_toList.2 hpath)
  · exact (Walk.Alike.ofClauses (fun clause h => Walk.Alike.classClause h) hpaths).sameFrom hn
  · exact (Walk.Alike.conditional hpaths).sameFrom hn

set_option maxRecDepth 2000 in
/-- A list whose items are null is left without copies, and so is one whose items the model lacks.
Its template has been taken out by then. -/
theorem execute_lacking_list : ∃ d, Document.parse "<ul data-list=\"xs\"><li/></ul>" = .ok d ∧
    (d.find? ⟨1⟩).map Tree.tag = some "ul" ∧
    let c : Setting := ⟨{}, .map []⟩
    let run (scope : Value) := (ContentOperator.list false).execute c (c.inject 8) ⟨1⟩ scope "xs"
    Walk.SameFrom { document := d }
        (Operator.Adds (.content (.list false)) "xs" (.undefinedProperty "xs"))
        (run (.map [("xs", .null)])) (run (.map [("ys", .null)])) ∧
      (run (.map [("ys", .null)]) { document := d }).2.document.markup =
        "<ul data-list=\"xs\"/>" := by
  obtain ⟨d, hparse, htag, hmarkup⟩ := exists_ok_of_check
    (Document.parse "<ul data-list=\"xs\"><li/></ul>")
    (p := fun d => (d.find? ⟨1⟩).map Tree.tag = some "ul" ∧
      ((ContentOperator.list false).execute ⟨{}, .map []⟩ ((⟨{}, .map []⟩ : Setting).inject 8) ⟨1⟩
        (.map [("ys", .null)]) "xs" { document := d }).2.document.markup = "<ul data-list=\"xs\"/>")
    (by decide +kernel)
  obtain ⟨t, hn, -⟩ := Option.map_eq_some_iff.1 htag
  obtain ⟨ts, hts⟩ := Template.anchored_of_parse hparse Document.root
  exact ⟨d, hparse, htag, (execute_lacking (c := ⟨{}, .map []⟩) (s := { document := d })
    hts.document hn rfl rfl "xs").2.1 (.list false) rfl _ _ (by rfl) (by rfl) rfl, hmarkup⟩

end TreeTemplate
