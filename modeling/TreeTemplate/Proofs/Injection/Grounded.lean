import TreeTemplate.Proofs.Attributes.Declared
import TreeTemplate.Proofs.Attributes.Decorate

/-!
# Scopes that elements are reached in

Which elements an injection reaches, and in which scope, can be read off the tree and the model, as
far as copies and markup that is filled in are left aside.

Main statements:

* `reveal_eq_ok` — an element that is hidden, and what is below it is not reached;
* `object_eq_ok` — the scope for the elements below an element that opens one.
-/

namespace TreeTemplate

variable {c : Setting} {ds : Directives} {scope : Value} {operand : String}

/-- Whether an element is hidden in a scope, and nothing below it is reached. -/
def Directives.excludes (c : Setting) (ds : Directives) (scope : Value) : Bool :=
  match ds.conditional? with
  | none => false
  | some (.condition, operand) =>
    match Condition.parse operand with
    | .ok condition =>
      match condition.holds c.model scope with
      | .ok answer => !answer.1
      | .error _ => false
    | .error _ => false
  | some (.exclude, operand) =>
    String.ofList ((Text.trim operand.toList).map Char.toLower) = "true"

/-- The scope that an operand opens. -/
def Setting.opened (c : Setting) (scope : Value) (operand : String) : Value :=
  if scope.isNull then .null
  else
    match Path.read c.model scope operand with
    | .ok value => if value.isNull || operand = "." || value.isComposite then value else .null
    | .error _ => .null

/-- Whether an element declares nothing that reads from its scope but what fills it. -/
def Directives.scopeless (ds : Directives) : Bool :=
  ds.attributes.isEmpty && ds.conditional?.isNone

namespace Tree

variable {ι : Type}

mutual

/-- Whether every element of a tree that is reached in a null scope declares no operator that sets
attributes and no condition. Copies in lists and maps do not count, nor does markup that is filled
in. -/
def grounded (c : Setting) (scope : Value) : Tree ι → Bool
  | element _ tag attrs hidden children =>
    let head : Head := ⟨tag, attrs, hidden⟩
    match Directives.ofAttrs c.engine.dialect head.shell.describe attrs with
    | .error _ => true
    | .ok ds =>
      (!scope.isNull || ds.scopeless) &&
        (ds.excludes c scope ||
          match ds.content? with
          | none => groundedAll c scope children
          | some (.object, operand) => groundedAll c (c.opened scope operand) children
          | some _ => true)
  | text _ _ => true

/-- Whether every element of several trees that is reached in a null scope declares no operator that
sets attributes and no condition. -/
def groundedAll (c : Setting) (scope : Value) : List (Tree ι) → Bool
  | [] => true
  | t :: ts => t.grounded c scope && groundedAll c scope ts

end

/-- Several trees are grounded if each of them is. -/
lemma groundedAll_eq (ts : List (Tree ι)) :
    groundedAll c scope ts = ts.all (grounded c scope) := by
  induction ts with
  | nil => rfl
  | cons t ts ih => rw [groundedAll, ih, List.all_cons]

/-- What is grounded below a grounded element. -/
lemma grounded_element {label : ι} {head : Head} {children : List (Tree ι)}
    (hds : Directives.ofAttrs c.engine.dialect head.shell.describe head.attrs = .ok ds)
    (h : (element label head.tag head.attrs head.hidden children).grounded c scope = true) :
    (scope.isNull = true → ds.scopeless = true) ∧
      (ds.excludes c scope = false → ds.content? = none →
        ∀ t ∈ children, t.grounded c scope = true) ∧
      (ds.excludes c scope = false → ∀ operand, ds.content? = some (.object, operand) →
        ∀ t ∈ children, t.grounded c (c.opened scope operand) = true) := by
  rw [grounded] at h
  simp only [hds, Bool.and_eq_true, Bool.or_eq_true, Bool.not_eq_true', groundedAll_eq] at h
  obtain ⟨hscope, hreached⟩ := h
  refine ⟨fun hnull => ?_, fun hexcludes hcontent => ?_, fun hexcludes operand hcontent => ?_⟩
  · exact hscope.resolve_left (by simp [hnull])
  · have hall := hreached.resolve_left (by simp [hexcludes])
    rw [hcontent] at hall
    exact List.all_eq_true.1 hall
  · have hall := hreached.resolve_left (by simp [hexcludes])
    rw [hcontent] at hall
    exact List.all_eq_true.1 hall

end Tree

namespace Local

variable {P : Element Unit} {b : Bool}

/-! ## Conditions -/

/-- What becomes of an element does not depend on how it looks. -/
lemma visibility_eq_ok {operator : ConditionalOperator} {v : Visibility}
    (hdeclared : ds.conditional? = some (operator, operand))
    (hok : (visibility c scope operand operator P).result = .ok v) :
    v = if ds.excludes c scope then .hidden else .shown := by
  unfold Directives.excludes
  rw [hdeclared]
  cases operator with
  | exclude =>
    rw [← Except.ok.inj hok]
    simp
  | condition =>
    obtain ⟨condition, hparse, hrest, -, -⟩ := bind_eq_ok hok
    obtain ⟨answer, hholds, hlast, -, -⟩ := bind_eq_ok hrest
    obtain ⟨_, -, hanswer, -, -⟩ := bind_eq_ok hlast
    cases hcondition : Condition.parse operand with
    | error error =>
      rw [hcondition] at hparse
      cases hparse
    | ok found =>
      rw [hcondition] at hparse
      cases hparse
      cases hfound : condition.holds c.model scope with
      | error cause =>
        rw [hfound] at hholds
        cases hholds
      | ok found =>
        rw [hfound] at hholds
        cases hholds
        cases hanswer
        obtain ⟨held, lacking⟩ := answer
        cases held <;> simp [hcondition, hfound]

/-- A condition that stops was written wrongly. -/
lemma onlyAssertions_visibility (operator : ConditionalOperator) :
    OnlyAssertions (visibility c scope operand operator) := by
  cases operator with
  | exclude => exact .pure _
  | condition =>
    refine .bind (.checkOperand _) fun condition => ?_
    intro P f hf
    cases hholds : condition.holds c.model scope with
    | error cause =>
      rw [hholds] at hf
      cases hf
      exact Condition.holds_class hholds
    | ok answer =>
      rw [hholds] at hf
      refine OnlyAssertions.bind (.forM fun cause hcause => ?_) (fun _ => .pure _) hf
      intro P f hf
      simp only [recover, Fault.faultClass, Condition.lacking_class hholds cause hcause] at hf
      cases hf

/-- What a condition makes of an element does not depend on how the element looks. -/
lemma conditional_eq_ok {operator : ConditionalOperator} {v : Visibility}
    (hdeclared : ds.conditional? = some (operator, operand))
    (hok : (conditional c scope operand operator P).result = .ok v) :
    v = if ds.excludes c scope then .hidden else .shown := by
  cases hrun : (visibility c scope operand operator P).result with
  | error f => exact absurd hok (guarded_assertion hrun (onlyAssertions_visibility operator hrun) v)
  | ok found =>
    rcases e : visibility c scope operand operator P with ⟨result, R, notes⟩
    rw [e] at hrun
    cases hrun
    rw [conditional, guarded_of_ok e] at hok
    cases hok
    exact visibility_eq_ok hdeclared (congrArg Yield.result e)

/-- Whether an element is shown does not depend on how it looks. -/
lemma reveal_eq_ok (hok : (reveal c ds scope P).result = .ok b) :
    b = !ds.excludes c scope ∧ ∀ Q, ∃ notes,
      reveal c ds scope Q = ⟨.ok b, Q.hide (ds.conditional?.map fun _ => !b), notes⟩ := by
  unfold reveal at hok ⊢
  cases hdeclared : ds.conditional? with
  | none =>
    rw [hdeclared] at hok
    cases hok
    exact ⟨by simp [Directives.excludes, hdeclared], fun Q => ⟨[], rfl⟩⟩
  | some declared =>
    obtain ⟨operator, operand⟩ := declared
    rw [hdeclared] at hok
    obtain ⟨v, hcondition, hrest, -, -⟩ := bind_eq_ok hok
    have hv := conditional_eq_ok hdeclared hcondition
    have hall := (IgnoresElement.conditional c scope operand operator).of_ok hcondition
    cases hexcludes : ds.excludes c scope with
    | true =>
      rw [hexcludes, if_pos rfl] at hv
      subst hv
      cases hrest
      refine ⟨rfl, fun Q => ?_⟩
      obtain ⟨notes, hrun, -⟩ := hall Q
      exact ⟨notes ++ [], bind_of_ok hrun⟩
    | false =>
      rw [hexcludes, if_neg (by simp)] at hv
      subst hv
      cases hrest
      refine ⟨rfl, fun Q => ?_⟩
      obtain ⟨notes, hrun, -⟩ := hall Q
      exact ⟨notes ++ [], bind_of_ok hrun⟩

/-- The scope that an operand opens does not depend on the element. -/
lemma object_eq_ok {walk : List Nat → Value → Local (Element Unit) Unit} {positions : List Nat}
    {inner? : Option Value}
    (hok : (content c walk positions scope operand .object P).result = .ok inner?) :
    inner? = some (c.opened scope operand) := by
  unfold Setting.opened
  cases hnull : scope.isNull with
  | true =>
    have hrun : run c walk positions scope operand .object P = ⟨.ok (some .null), P, []⟩ := by
      simp only [run, runObject, hnull, if_true]
      rfl
    rw [content, guarded_of_ok hrun] at hok
    cases hok
    rfl
  | false =>
    -- what the model lacks opens the null scope
    have hlacks {cause : Cause} (hclass : cause.faultClass = .content)
        (hrun : runObject c scope operand P = ⟨.error ⟨cause, none⟩, P, []⟩) :
        inner? = some .null := by
      have hstop : run c walk positions scope operand .object P =
          ⟨.error ⟨cause, none⟩, P, []⟩ := bind_of_error hrun
      have hfallback : (content c walk positions scope operand .object P).result =
          .ok (some .null) := congrArg Yield.result (guarded_of_lacking hstop hclass rfl)
      rw [hfallback] at hok
      cases hok
      rfl
    cases hread : Path.read c.model scope operand with
    | error cause =>
      have hrun : runObject c scope operand P = ⟨.error ⟨cause, none⟩, P, []⟩ := by
        simp only [runObject, hnull, hread]
        rfl
      rcases Path.read_class hread with hclass | hclass
      · exact hlacks hclass hrun
      · have hstop : (run c walk positions scope operand .object P).result =
            .error ⟨cause, none⟩ := congrArg Yield.result (bind_of_error hrun)
        exact absurd hok (guarded_assertion hstop hclass inner?)
    | ok value =>
      cases hkind : value.isNull || operand = "." || value.isComposite with
      | true =>
        have hrun : run c walk positions scope operand .object P =
            ⟨.ok (some value), P, []⟩ := by
          simp only [run, runObject, hnull, hread, check_ok_bind, hkind]
          rfl
        rw [content, guarded_of_ok hrun] at hok
        cases hok
        simp [hkind]
      | false =>
        have hrun : runObject c scope operand P =
            ⟨.error ⟨.expectedComposite operand value.kind, none⟩, P, []⟩ := by
          simp only [runObject, hnull, hread, check_ok_bind, hkind]
          rfl
        simp [hkind, hlacks rfl hrun]

end Local

end TreeTemplate
