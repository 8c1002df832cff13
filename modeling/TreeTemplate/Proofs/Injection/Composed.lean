import TreeTemplate.Proofs.Injection.AlikeToOperators
import TreeTemplate.Proofs.Injection.AfterWalks
import TreeTemplate.Proofs.Paths.Joined

/-!
# Scopes that are opened and paths that are joined

An element inside a wrapper is filled from a path in the scope that the wrapper opens by another
path. Without the wrapper's scope it is filled in the same way from the two paths joined.

Main statements:

* `content_object` — the scope that a wrapper opens, and what a joined path gives;
* `inject_composed` — a wrapper with a scope of its own, and one without.
-/

namespace TreeTemplate

/-! ## Elements that an attribute fills -/

/-- Whether an attribute of a name declares what fills an element. -/
def Dialect.fillsContent (d : Dialect) (name : String) : Bool :=
  match d.operator? name with
  | some (.content _) => true
  | _ => false

namespace Head

variable {d : Dialect} {name operand element : String} {operator : ContentOperator} {h : Head}

/-- An attribute declares the operator that fills an element, and no other attribute does. -/
structure FilledBy (d : Dialect) (name : String) (operator : ContentOperator) (operand : String)
    (h : Head) : Prop where
  declares : d.operator? name = some (.content operator)
  alone : h.attrs.filter (fun attr => d.fillsContent attr.1) = [(name, operand)]

/-- An attribute declares the operator that fills an element, and it is the only directive. -/
structure FilledOnlyBy (d : Dialect) (name : String) (operator : ContentOperator)
    (operand : String) (h : Head) : Prop where
  declares : d.operator? name = some (.content operator)
  alone : h.attrs.filter (fun attr => (d.operator? attr.1).isSome) = [(name, operand)]

instance (d : Dialect) (h : Head) : Decidable (h.FilledBy d name operator operand) :=
  decidable_of_iff (d.operator? name = some (.content operator) ∧
    h.attrs.filter (fun attr => d.fillsContent attr.1) = [(name, operand)])
    ⟨fun ⟨hdeclares, halone⟩ => ⟨hdeclares, halone⟩, fun h => ⟨h.declares, h.alone⟩⟩

instance (d : Dialect) (h : Head) : Decidable (h.FilledOnlyBy d name operator operand) :=
  decidable_of_iff (d.operator? name = some (.content operator) ∧
    h.attrs.filter (fun attr => (d.operator? attr.1).isSome) = [(name, operand)])
    ⟨fun ⟨hdeclares, halone⟩ => ⟨hdeclares, halone⟩, fun h => ⟨h.declares, h.alone⟩⟩

/-- An element with an attribute set. -/
def setAttr (name value : String) (h : Head) : Head :=
  { h with attrs := Tree.replaceAttr name value h.attrs }

/-- An element without an attribute. -/
def removeAttr (name : String) (h : Head) : Head :=
  { h with attrs := h.attrs.filter (·.1 ≠ name) }

/-- The only directive of an element may have another operand. -/
lemma FilledOnlyBy.setAttr (hfilled : h.FilledOnlyBy d name operator operand) (operand' : String) :
    (h.setAttr name operand').FilledOnlyBy d name operator operand' := by
  refine ⟨hfilled.declares, ?_⟩
  have hself := hfilled.alone
  simp only [Head.setAttr, Tree.filter_replaceAttr (fun found => (d.operator? found).isSome), hself,
    hfilled.declares, Option.isSome_some, if_true, Tree.replaceAttr]

/-- The directives of an element with one. -/
lemma FilledOnlyBy.directives (hfilled : h.FilledOnlyBy d name operator operand) :
    Directives.ofAttrs d element h.attrs = .ok { content? := some (operator, operand) } := by
  have hself : h.attrs.filter (fun attr => (d.operator? attr.1).isSome) = _ := hfilled.alone
  unfold Directives.ofAttrs
  rw [← Directives.foldlM_filter (fun found => (d.operator? found).isSome) fun _ h => h, hself]
  simp only [List.foldlM_cons, List.foldlM_nil, Directives.add, hfilled.declares]
  rfl

end Head

namespace Directives

variable {d : Dialect} {element : String} {attrs : List (String × String)}

/-- Attributes that do not fill an element add the same to its directives whatever fills it. -/
lemma foldlM_content (hattrs : ∀ attr ∈ attrs, d.fillsContent attr.1 = false)
    (content? : Option (ContentOperator × String)) (ds : Directives) :
    attrs.foldlM (add d element) { ds with content? } =
      (attrs.foldlM (add d element) ds).map fun ds => { ds with content? } := by
  induction attrs generalizing ds with
  | nil => rfl
  | cons attr attrs ih =>
    have hlater := ih fun attr ha => hattrs attr (List.mem_cons_of_mem _ ha)
    have hfirst : add d element { ds with content? } attr =
        (add d element ds attr).map fun ds => { ds with content? } := by
      have hnone := hattrs attr List.mem_cons_self
      obtain ⟨name, operand⟩ := attr
      unfold Dialect.fillsContent at hnone
      -- only an attribute that fills the element would look at `content?`
      cases hop : d.operator? name with
      | none => simp only [add, hop]; rfl
      | some operator =>
        cases operator with
        | content operator =>
          rw [hop] at hnone
          cases hnone
        | jump => cases hjump : ds.jump? <;> simp only [add, hop, hjump] <;> rfl
        | conditional operator =>
          cases hconditional : ds.conditional? <;> simp only [add, hop, hconditional] <;> rfl
        | attr operator => simp only [add, hop]; rfl
    rw [List.foldlM_cons, List.foldlM_cons, hfirst]
    cases add d element ds attr with
    | error cause => rfl
    | ok next => exact hlater next

end Directives

/-- The attribute that names a formatter is no directive. -/
lemma Dialect.operator?_formatAttribute (d : Dialect) : d.operator? d.formatAttribute = none := by
  have hnone : Operator.ofName? "format" = none := by decide +kernel
  simp only [operator?, formatAttribute, String.toList_append, Text.afterPrefix?_append,
    Option.bind_some, String.ofList_toList, hnone]

namespace Head

variable {d : Dialect} {name operand element : String} {operator : ContentOperator} {h : Head}

/-- Without the attribute that fills an element nothing does. -/
lemma FilledBy.removeAttr (hfilled : h.FilledBy d name operator operand) :
    ∃ before after, h.attrs = before ++ (name, operand) :: after ∧
      (h.removeAttr name).attrs = before ++ after ∧
      ∀ attr ∈ before ++ after, d.fillsContent attr.1 = false := by
  have hfills : d.fillsContent name = true := by
    simp only [Dialect.fillsContent, hfilled.declares]
  obtain ⟨before, after, hattrs, hbefore, -, hafter⟩ := List.filter_eq_cons_iff.1 hfilled.alone
  have hnone : ∀ attr ∈ before ++ after, d.fillsContent attr.1 = false := by
    intro attr hattr
    rcases List.mem_append.1 hattr with hattr | hattr
    · simpa using hbefore attr hattr
    · simpa using List.filter_eq_nil_iff.1 hafter attr hattr
  refine ⟨before, after, hattrs, ?_, hnone⟩
  have hkept : (before ++ after).filter (·.1 ≠ name) = before ++ after := by
    refine List.filter_eq_self.2 fun attr hattr => decide_eq_true ?_
    rintro rfl
    rw [hnone attr hattr] at hfills
    cases hfills
  rw [← hkept]
  simp [Head.removeAttr, hattrs]

/-- An element declares what it does without the attribute that fills it, and that attribute. -/
lemma FilledBy.directives (hfilled : h.FilledBy d name operator operand) :
    Directives.ofAttrs d element h.attrs =
      (Directives.ofAttrs d element (h.removeAttr name).attrs).map fun ds =>
        { ds with content? := some (operator, operand) } := by
  obtain ⟨before, after, hattrs, hremoved, hnone⟩ := hfilled.removeAttr
  have hbefore : before.foldlM (Directives.add d element) {} = _ :=
    Directives.foldlM_content (fun attr ha => hnone attr (List.mem_append_left _ ha)) none {}
  rw [hattrs, hremoved, Directives.ofAttrs_append, Directives.ofAttrs_append]
  unfold Directives.ofAttrs
  cases hfirst : before.foldlM (Directives.add d element) {} with
  | error cause => rfl
  | ok ds =>
    have hcontent : ds.content? = none := by
      rw [hfirst] at hbefore
      exact congrArg Directives.content? (Except.ok.inj hbefore)
    have hadd : Directives.add d element ds (name, operand) =
        .ok { ds with content? := some (operator, operand) } := by
      simp only [Directives.add, hfilled.declares, hcontent]
    change (do after.foldlM _ (← Directives.add d element ds (name, operand))) = _
    rw [hadd]
    exact Directives.foldlM_content (fun attr ha => hnone attr (List.mem_append_right _ ha))
      (some (operator, operand)) ds

/-- An element can be read with the attribute that fills it just when it can be without. -/
lemma FilledBy.directives_cases (hfilled : h.FilledBy d name operator operand)
    (element element' : String) :
    (∃ cause cause', Directives.ofAttrs d element h.attrs = .error cause ∧
      Directives.ofAttrs d element' (h.removeAttr name).attrs = .error cause') ∨
    ∃ ds, Directives.ofAttrs d element h.attrs =
        .ok { ds with content? := some (operator, operand) } ∧
      Directives.ofAttrs d element' (h.removeAttr name).attrs = .ok ds := by
  have hdirectives : Directives.ofAttrs d element h.attrs = _ := hfilled.directives
  cases hds : Directives.ofAttrs d element (h.removeAttr name).attrs with
  | error cause =>
    rw [hds] at hdirectives
    cases hds' : Directives.ofAttrs d element' (h.removeAttr name).attrs with
    | error cause' => exact .inl ⟨cause, cause', hdirectives, rfl⟩
    | ok ds =>
      have hok : Directives.ofAttrs d element (h.removeAttr name).attrs = .ok ds :=
        Directives.foldlM_congr hds'
      rw [hds] at hok
      cases hok
  | ok ds =>
    rw [hds] at hdirectives
    exact .inr ⟨ds, hdirectives, Directives.foldlM_congr hds⟩

/-- Without the attribute that fills an element it declares nothing that does. -/
lemma FilledBy.content?_removeAttr (hfilled : h.FilledBy d name operator operand)
    {ds : Directives} (hds : Directives.ofAttrs d element (h.removeAttr name).attrs = .ok ds) :
    ds.content? = none := by
  obtain ⟨before, after, -, hremoved, hnone⟩ := hfilled.removeAttr
  have hall : (before ++ after).foldlM (Directives.add d element) {} = _ :=
    Directives.foldlM_content hnone none {}
  rw [hremoved, Directives.ofAttrs] at hds
  rw [hds] at hall
  exact congrArg Directives.content? (Except.ok.inj hall)

/-- An element looks the same to the operators with another value of a directive, or without it. -/
lemma readsLike_of_declares {P : Element Unit} (hdeclares : (d.operator? name).isSome = true)
    (f : List (String × String) → List (String × String)) (stock children : List (Stocked Unit))
    (hf : ∀ other ≠ name, (f P.head.attrs).lookup other = P.head.attrs.lookup other) :
    P.ReadsLike d ⟨{ P.head with attrs := f P.head.attrs }, stock, children⟩ := by
  refine ⟨rfl, hf _ ?_⟩
  rintro rfl
  rw [d.operator?_formatAttribute] at hdeclares
  cases hdeclares

end Head

namespace Local

variable {c : Setting} {walk : List Nat → Value → Local (Element Unit) Unit} {positions : List Nat}
  {scope : Value} {first second : String} {path : Path} {names : List String} {P Q : Element Unit}
  {operator : ContentOperator}

/-! ## The scope that a wrapper opens -/

/-- A wrapper opens a scope that is null or has properties. -/
lemma content_object_of_ok {value : Value} (hopen : scope.isNull = false)
    (hvalue : Path.read c.model scope first = .ok value)
    (hgood : (value.isNull || value.isComposite) = true) :
    content c walk positions scope first .object P = ⟨.ok (some value), P, []⟩ := by
  have hrun : run c walk positions scope first .object P = ⟨.ok (some value), P, []⟩ := by
    simp only [run, runObject, hopen, hvalue, check_ok_bind, Bool.false_eq_true, if_false]
    rw [if_pos (by rcases Bool.or_eq_true_iff.1 hgood with h | h <;> simp [h])]
    rfl
  exact guarded_of_ok hrun

/-- Where the model lacks the scope that a wrapper is to open, the wrapper opens a null scope. -/
lemma content_object_of_lacking {cause : Cause} (hcause : cause.faultClass = .content)
    (hrun : runObject c scope first P = ⟨.error ⟨cause, none⟩, P, []⟩) :
    ∃ noted, content c walk positions scope first .object P = ⟨.ok (some .null), P, noted⟩ ∧
      noted.map Fault.faultClass = [.content] :=
  ⟨_, guarded_of_lacking (bind_of_error hrun) hcause rfl,
    congrArg (fun faultClass => [faultClass]) hcause⟩

section Scopes

variable (hscope : scope.isComposite = true) (hfirst : Path.parse first = .ok path)
  (hpath : first ≠ ".") (hsecond : Path.parse second = .ok (.relative names))
include hscope hfirst hpath hsecond

variable (c walk positions) in
/-- A wrapper opens the scope that its path names, and what a path names in it is what the joined
path names. Where there is null or nothing, the wrapper opens a null scope, and it is noted if the
model lacks what the joined path names. -/
lemma content_object (P : Element Unit) :
    let joined := first ++ "." ++ second
    ∃ inner noted, content c walk positions scope first .object P = ⟨.ok (some inner), P, noted⟩ ∧
      ((inner.isComposite = true ∧ noted = [] ∧
          Path.read c.model inner second = Path.read c.model scope joined) ∨
        (inner = .null ∧ noted = [] ∧ Path.read c.model scope joined = .ok .null) ∨
        inner = .null ∧ noted.map Fault.faultClass = [.content] ∧ ∃ cause : Cause,
          cause.faultClass = .content ∧ Path.read c.model scope joined = .error cause) := by
  intro joined
  have hopen : scope.isNull = false := ContentOperator.isNull_of_isComposite hscope
  have hread : Path.read c.model scope joined =
      (do Path.follow (← Path.read c.model scope first) names) :=
    Path.read_joined hscope hfirst hpath hsecond
  cases hvalue : Path.read c.model scope first with
  | error cause =>
    have hcause : cause.faultClass = .content := Path.read_lacks hscope hfirst hvalue
    have hrun : runObject c scope first P = ⟨.error ⟨cause, none⟩, P, []⟩ := by
      simp only [runObject, hopen, hvalue, check_error_bind, Bool.false_eq_true, if_false]
      rfl
    rw [hvalue] at hread
    obtain ⟨noted, hcontent, hnoted⟩ := content_object_of_lacking hcause hrun
    exact ⟨.null, noted, hcontent, .inr (.inr ⟨rfl, hnoted, cause, hcause, hread⟩)⟩
  | ok value =>
    have hfollow : Path.read c.model scope joined = Path.follow value names := by
      rw [hread, hvalue]
      rfl
    by_cases hnull : value.isNull = true
    · obtain rfl : value = .null := by cases value <;> first | rfl | cases hnull
      exact ⟨.null, [], content_object_of_ok hopen hvalue rfl,
        .inr (.inl ⟨rfl, rfl, hfollow.trans (Path.follow_null names)⟩)⟩
    · by_cases hcomposite : value.isComposite = true
      · exact ⟨value, [], content_object_of_ok hopen hvalue (by simp [hcomposite]),
          .inl ⟨hcomposite, rfl, (Path.read_relative hcomposite hsecond).trans hfollow.symm⟩⟩
      · -- a scalar is no scope, and it has no properties either
        simp only [Bool.not_eq_true] at hnull hcomposite
        obtain ⟨segment, herror⟩ :=
          Path.follow_scalar hnull hcomposite (Path.ne_nil_of_parse hsecond)
        have hrun : runObject c scope first P =
            ⟨.error ⟨.expectedComposite first value.kind, none⟩, P, []⟩ := by
          simp only [runObject, hopen, hvalue, check_ok_bind, Bool.false_eq_true, if_false]
          rw [if_neg (by simp [hnull, hcomposite, hpath])]
          rfl
        obtain ⟨noted, hcontent, hnoted⟩ := content_object_of_lacking (by rfl) hrun
        exact ⟨.null, noted, hcontent,
          .inr (.inr ⟨rfl, hnoted, _, by rfl, hfollow.trans herror⟩)⟩

variable (c walk positions) in
/-- An element is filled in the scope that a wrapper opens as one alike is filled from the joined
path, and the wrapper notes what the other one would have noted about its scope. -/
lemma content_composed (hoperator : operator.readsPath = true) (hobject : operator ≠ .object)
    (W : Element Unit) :
    ∃ inner noted, content c walk positions scope first .object W = ⟨.ok (some inner), W, noted⟩ ∧
      ∀ enter (P Q : Element Unit), P.AlikeToOperators c.engine.dialect Q →
      (operator = .text → P.elements = []) →
        (content c enter positions inner second operator P).SameContent
          (noted.map Fault.faultClass)
          (content c enter positions scope (first ++ "." ++ second) operator Q) := by
  have hopen : scope.isNull = false := ContentOperator.isNull_of_isComposite hscope
  obtain ⟨inner, noted, hcontent, hcases⟩ :=
    content_object c walk positions hscope hfirst hpath hsecond W
  refine ⟨inner, noted, hcontent, fun enter P Q halike htext => ?_⟩
  rcases hcases with ⟨hinner, rfl, hread⟩ | ⟨rfl, rfl, hread⟩ | ⟨rfl, hnoted, cause, hcause, hread⟩
  · exact (Matches.content (ContentOperator.isNull_of_isComposite hinner) hopen hread hoperator
      hobject halike).sameContent
  · exact content_of_null halike hoperator hobject hopen hread htext
  · rw [hnoted]
    exact content_of_lacking halike hoperator hobject hopen hread hcause htext

end Scopes

/-! ## Elements with one directive -/

/-- An action whose answer is dropped does what it does. -/
lemma bind_unit {α σ : Type} (x : Local σ α) (p : σ) :
    (x >>= fun _ => pure ()) p = ⟨(x p).result.map fun _ => (), (x p).state, (x p).notes⟩ := by
  rcases e : x p with ⟨f | a, q, notes⟩
  · rw [bind_of_error e]
    rfl
  · rw [bind_of_ok e, pure_apply, List.append_nil]
    rfl

/-- An element that an operator fills is not walked below. -/
lemma inner_descend {enter : List Nat → Value → Bool → Local (Element Unit) Unit} {operand : String}
    (hobject : operator ≠ .object) (act : Value → Local (Element Unit) Unit) (P : Element Unit) :
    (inner c enter positions scope (some (operator, operand)) >>= descend act) P =
      (content c (fun inside value => enter inside value true) positions scope operand operator >>=
        fun _ => pure ()) P := by
  unfold inner
  dsimp only
  rcases e : content c (fun inside value => enter inside value true) positions scope operand
    operator P with ⟨f | inner?, Q, notes⟩
  · rw [bind_of_error e, bind_of_error e]
  · rw [bind_of_ok e, bind_of_ok e]
    cases inner? with
    | none => rfl
    | some inner => exact absurd (content_some operator (congrArg Yield.result e)).1 hobject

/-- An element whose only directive fills it is filled, and that is all. -/
lemma inject_filled {name operand : String}
    (hfilled : P.head.FilledOnlyBy c.engine.dialect name operator operand)
    (hobject : operator ≠ .object) (room depth : Nat) (scope : Value) (isItem : Bool) :
    inject c (room + 1) depth positions scope isItem P =
      (content c (fun inside value => inject c room (depth + 1) inside value true) positions scope
        operand operator >>= fun _ => pure ()) P := by
  have hdirectives : directives c.engine.dialect P =
      ⟨.ok { content? := some (operator, operand) }, P, []⟩ := by
    simp only [directives, hfilled.directives, check]
    rfl
  have hfill : injectDirectives c (inject c room (depth + 1)) positions
      { content? := some (operator, operand) } scope isItem =
      fill c (inject c room (depth + 1)) positions { content? := some (operator, operand) } scope
        isItem := by
    unfold injectDirectives
    split
    · rfl
    · rfl
  change (directives c.engine.dialect >>= fun ds =>
    injectDirectives c (inject c room (depth + 1)) positions ds scope isItem) P = _
  rw [bind_of_ok hdirectives, hfill]
  exact inner_descend hobject _ P

/-- An injection leaves the head of an element whose only directive fills it. -/
lemma head_inject_filled {name operand : String}
    (hfilled : P.head.FilledOnlyBy c.engine.dialect name operator operand)
    (hobject : operator ≠ .object) (room depth : Nat) (scope : Value) (isItem : Bool) :
    (inject c room depth positions scope isItem P).state.head = P.head := by
  cases room with
  | zero => rfl
  | succ room =>
    rw [inject_filled hfilled hobject, bind_unit]
    exact keeps_head_content P.head operator P rfl

/-- Where elements that are alike are filled with the same, an injection does the same to them. -/
lemma inject_alikeToOperators {inner : Value} {noted : List FaultClass}
    {name operand operand' : String}
    (hP : P.head.FilledOnlyBy c.engine.dialect name operator operand)
    (hQ : Q.head.FilledOnlyBy c.engine.dialect name operator operand')
    (hobject : operator ≠ .object)
    (h : ∀ enter, (content c enter positions inner operand operator P).SameContent noted
      (content c enter positions scope operand' operator Q)) (room depth : Nat) (isItem : Bool) :
    (inject c room depth positions inner isItem P).SameContent noted
      (inject c room depth positions scope isItem Q) := by
  cases room with
  | zero => exact .inl ⟨_, _, rfl, rfl⟩
  | succ room =>
    rw [inject_filled hP hobject, inject_filled hQ hobject, bind_unit, bind_unit]
    rcases h fun inside value => inject c room (depth + 1) inside value true with
      ⟨f, g, hf, hg⟩ | ⟨a, b, ha, hb, hchildren, hnotes⟩
    · exact .inl ⟨f, g, by rw [hf]; rfl, by rw [hg]; rfl⟩
    · exact .inr ⟨(), (), by rw [ha]; rfl, by rw [hb]; rfl, hchildren, hnotes⟩

/-! ## Elements with one element below them -/

variable {before after : List (Stocked Unit)} {W : Element Unit} {ds : Directives} {name : String}

/-- Of one element among texts it alone is walked. -/
lemma sweep_single (hbefore : before.filter Stocked.isElement = [])
    (hafter : after.filter Stocked.isElement = []) (act : Local (Element Unit) Unit) :
    sweep ((before ++ P.whole :: after).map fun t => (t, act)) =
      ⟨(act P).result, before ++ (act P).state.whole :: after, (act P).notes⟩ := by
  induction before with
  | nil =>
    have hwhole := onElement_whole act P
    rcases e : act P with ⟨f | _, Q, notes⟩ <;> rw [e] at hwhole
    · rw [List.nil_append, List.map_cons, sweep_cons_of_error hwhole, List.map_map]
      simp only [Function.comp_def, List.map_id', List.nil_append]
    · rw [List.nil_append, List.map_cons, sweep_cons_of_ok hwhole, sweep_texts act hafter]
      simp only [List.append_nil, List.nil_append]
  | cons t before ih =>
    cases t with
    | element => cases hbefore
    | text label content =>
      have hfirst : onElement act (.text label content) = ⟨.ok (), .text label content, []⟩ := rfl
      rw [List.cons_append, List.map_cons, sweep_cons_of_ok hfirst, ih hbefore]
      rfl

/-- Below an element with one element below it that element is walked. -/
lemma below_single (hbefore : before.filter Stocked.isElement = [])
    (hafter : after.filter Stocked.isElement = []) (hW : W.children = before ++ P.whole :: after)
    (act : Local (Element Unit) Unit) : below act W =
      ⟨(act P).result, W.fill (before ++ (act P).state.whole :: after), (act P).notes⟩ := by
  simp only [below, onChildren, hW, sweep_single hbefore hafter act]

/-- Decorating an element that shows no value leaves the nodes below it. -/
lemma children_decorate (hshows : P.head.showsValue c.engine.dialect = false)
    (hds : ds.attributes = P.head.setters c.engine.dialect) :
    (decorate c ds scope P).state.children = P.children := by
  have hkeeps : Keeps (fun Q => Q.head.tag = P.head.tag ∧ Q.children = P.children)
      (decorate c ds scope) := by
    refine .decorate_covered (t := P.shell) (fun Q hQ => hQ.1) (fun op hop touch hcovers Q hQ => ?_)
      fun _ hidden => .change fun Q hQ => hQ
    have hvalue (hvalue : op.1 = .value ∧ P.shell.hasTag valueTags = false) : False := by
      rw [hds] at hop
      refine List.any_eq_false.1 hshows op hop ?_
      have htag : P.head.shell.hasTag valueTags = false := hvalue.2
      simp [hvalue.1, htag]
    rw [Touch.apply_eq]
    refine ⟨hQ.1, ?_⟩
    cases touch with
    | removeText => exact absurd hcovers hvalue
    | fillText => exact absurd hcovers hvalue
    | _ => exact hQ.2
  exact (hkeeps P ⟨rfl, rfl⟩).2

/-- An element that opens a scope is walked below in that scope. -/
lemma fill_opens {enter : List Nat → Value → Bool → Local (Element Unit) Unit} {operand : String}
    {inner : Value} {noted : List Fault} {isItem : Bool}
    (hoperator : contentOperator ds isItem W = ⟨.ok (some (.object, operand)), W, []⟩)
    (hcontent : content c (fun inside value => enter inside value true) positions scope operand
      .object W = ⟨.ok (some inner), W, noted⟩) :
    let left := below (enter positions inner false) W
    fill c enter positions ds scope isItem W = ⟨left.result, left.state, noted ++ left.notes⟩ := by
  intro left
  unfold fill
  rw [bind_of_ok hoperator, List.nil_append]
  exact bind_of_ok hcontent

/-- An element that declares nothing that fills it is walked below in the scope around it. -/
lemma fill_passes {enter : List Nat → Value → Bool → Local (Element Unit) Unit} (isItem : Bool)
    (hscope : scope.isComposite = true) (hnone : ds.content? = none) (hW : W.elements ≠ []) :
    fill c enter positions ds scope isItem W = below (enter positions scope false) W := by
  cases isItem with
  | false =>
    rw [fill_eq, hnone]
    rfl
  | true =>
    have hoperator : contentOperator ds true W = ⟨.ok (some (.object, ".")), W, []⟩ := by
      have hempty : W.elements.isEmpty = false := by simpa using hW
      simp only [contentOperator, hnone, itemOperator, hempty, Bool.false_eq_true, if_false,
        if_true]
    exact fill_opens hoperator (content_object_of_ok
      (ContentOperator.isNull_of_isComposite hscope) rfl (by simp [hscope]))

/-! ## Wrappers -/

/-- Two runs at wrappers both stop, or both succeed; then they leave the same nodes below the
elements in the wrappers, and they note faults of the same classes. -/
def SameInside (before after : List (Stocked Unit)) (h h' : Head)
    (x y : Yield (Element Unit) Unit) : Prop :=
  (∃ f g, x.result = .error f ∧ y.result = .error g) ∨
    x.result = .ok () ∧ y.result = .ok () ∧
      x.notes.map Fault.faultClass = y.notes.map Fault.faultClass ∧
      ∃ F F' : Element Unit, F.head = h ∧ F'.head = h' ∧ F'.children = F.children ∧
        x.state.children = before ++ F.whole :: after ∧
        y.state.children = before ++ F'.whole :: after

variable {name' : String} {E : Element Unit}

/-- What follows the decoration of wrappers does the same inside of them if it does so where the
decoration has left them. -/
lemma decorated_composed {act act' : Local (Element Unit) Unit} {W' F : Element Unit}
    (hdecorate : (decorate c ds scope W).Matches (Element.ReadsLike c.engine.dialect)
      (decorate c ds scope W'))
    (hchildren : F.children = E.children)
    (hW : (decorate c ds scope W).state.children = before ++ E.whole :: after)
    (hW' : (decorate c ds scope W').state.children = before ++ F.whole :: after)
    (hact : ∀ V V' : Element Unit, V.children = before ++ E.whole :: after →
      V'.children = before ++ F.whole :: after →
        SameInside before after E.head F.head (act V) (act' V')) :
    SameInside before after E.head F.head
      ((do if ← decorate c ds scope then act else pure ()) W)
      ((do if ← decorate c ds scope then act' else pure ()) W') := by
  obtain ⟨hresult, hnotes, -⟩ := hdecorate
  -- both decorations stop, or both say whether the walk goes on; the mixed cases do not arise
  rcases e : decorate c ds scope W with ⟨f | goesOn, V, notes⟩ <;>
    rcases e' : decorate c ds scope W' with ⟨g | goesOn', V', notes'⟩ <;>
    rw [e, e'] at hresult hnotes <;> rw [e] at hW <;> rw [e'] at hW' <;>
    simp only [Except.mapError, Except.error.injEq, Except.ok.injEq, reduceCtorEq] at hresult
  · rw [bind_of_error e, bind_of_error e']
    exact .inl ⟨f, g, rfl, rfl⟩
  · subst hresult
    rw [bind_of_ok e, bind_of_ok e']
    cases goesOn with
    | false => exact .inr ⟨rfl, rfl, by simpa using hnotes, E, F, rfl, rfl, hchildren, hW, hW'⟩
    | true =>
      -- faults of the decorations stand in front of those of what follows
      rcases hact V V' hW hW' with ⟨f, g, hf, hg⟩ | ⟨hf, hg, hlater, hinside⟩
      · exact .inl ⟨f, g, hf, hg⟩
      · refine .inr ⟨hf, hg, ?_, hinside⟩
        rw [List.map_append, List.map_append, hnotes]
        exact congrArg _ hlater

section Wrappers

variable (hscope : scope.isComposite = true) (hfirst : Path.parse first = .ok path)
  (hpath : first ≠ ".") (hsecond : Path.parse second = .ok (.relative names))
  (hE : E.head.FilledOnlyBy c.engine.dialect name' operator second)
  (hoperator : operator.readsPath = true) (hobject : operator ≠ .object)
  (htext : operator = .text → E.elements = [])
  (hbefore : before.filter Stocked.isElement = []) (hafter : after.filter Stocked.isElement = [])
include hscope hfirst hpath hsecond hE hoperator hobject htext hbefore hafter

/-- Filling a wrapper that opens a scope, and one that declares nothing that fills it. -/
lemma fill_composed {F : Element Unit} (halike : E.AlikeToOperators c.engine.dialect F)
    (hF : F.head = E.head.setAttr name' (first ++ "." ++ second))
    {W' : Element Unit} (hW : W.children = before ++ E.whole :: after)
    (hW' : W'.children = before ++ F.whole :: after) (hnone : ds.content? = none)
    (room depth : Nat) (isItem : Bool) :
    SameInside before after E.head F.head
      (fill c (inject c room depth) positions { ds with content? := some (.object, first) } scope
        isItem W)
      (fill c (inject c room depth) positions ds scope isItem W') := by
  have hF' : F.head.FilledOnlyBy c.engine.dialect name' operator (first ++ "." ++ second) := by
    rw [hF]
    exact hE.setAttr _
  have helements : W'.elements ≠ [] := by
    have hmem : F.whole ∈ W'.elements :=
      List.mem_filter.2 ⟨by rw [hW']; simp, rfl⟩
    exact List.ne_nil_of_mem hmem
  obtain ⟨inner, noted, hcontent, hsame⟩ := content_composed c
    (fun inside value => inject c room depth inside value true) positions hscope hfirst hpath
    hsecond hoperator hobject W
  have htwice :=
    inject_alikeToOperators hE hF' hobject (fun enter => hsame enter E F halike htext) room depth
    false
  rw [fill_opens rfl hcontent, fill_passes isItem hscope hnone helements,
    below_single hbefore hafter hW, below_single hbefore hafter hW']
  rcases htwice with ⟨f, g, hf, hg⟩ | ⟨_, _, hx, hy, hchildren, hnotes⟩
  · exact .inl ⟨f, g, hf, hg⟩
  · refine .inr ⟨hx, hy, ?_, _, _, head_inject_filled hE hobject ..,
      head_inject_filled hF' hobject .., hchildren.symm, rfl, rfl⟩
    rw [List.map_append]
    exact hnotes

/-- An element in a wrapper that opens a scope, and one with the paths joined in the wrapper without
that scope. -/
theorem inject_composed (hfilled : W.head.FilledBy c.engine.dialect name .object first)
    (hshows : W.head.showsValue c.engine.dialect = false)
    (hW : W.children = before ++ E.whole :: after) (room depth : Nat) (isItem : Bool) :
    let F : Element Unit := ⟨E.head.setAttr name' (first ++ "." ++ second), E.stock, E.children⟩
    let W' : Element Unit := ⟨W.head.removeAttr name, W.stock, before ++ F.whole :: after⟩
    SameInside before after E.head F.head (inject c room depth positions scope isItem W)
      (inject c room depth positions scope isItem W') := by
  intro F W'
  cases room with
  | zero => exact .inl ⟨_, _, rfl, rfl⟩
  | succ room =>
    have halike : E.AlikeToOperators c.engine.dialect F := by
      refine ⟨Head.readsLike_of_declares (by rw [hE.declares]; rfl) _ _ _ fun other hne => ?_, rfl,
        rfl⟩
      exact Tree.lookup_replaceAttr_of_ne hne ..
    have hreads : W.ReadsLike c.engine.dialect W' :=
      Head.readsLike_of_declares (by rw [hfilled.declares]; rfl) _ _ _ fun other hne =>
        Tree.lookup_filter_ne_of_ne hne _
    have hgo (ds : Directives) :
        injectDirectives c (inject c room (depth + 1)) positions ds scope isItem = (do
          if ← decorate c ds scope then
            fill c (inject c room (depth + 1)) positions ds scope isItem
          else pure ()) := by
      have hopen := ContentOperator.isNull_of_isComposite hscope
      simp only [injectDirectives, hopen, Bool.false_eq_true, if_false]
    change SameInside _ _ _ _ ((directives c.engine.dialect >>= fun ds =>
        injectDirectives c (inject c room (depth + 1)) positions ds scope isItem) W)
      ((directives c.engine.dialect >>= fun ds =>
        injectDirectives c (inject c room (depth + 1)) positions ds scope isItem) W')
    rcases hfilled.directives_cases W.shell.describe W'.shell.describe with
      ⟨cause, cause', hds, hds'⟩ | ⟨ds, hds, hds'⟩
    · rw [bind_of_error (directives_of_error hds), bind_of_error (directives_of_error hds')]
      exact .inl ⟨_, _, rfl, rfl⟩
    · rw [bind_of_ok (directives_of_ok hds), bind_of_ok (directives_of_ok hds'), hgo, hgo]
      have hsetters : ds.attributes = W.head.setters c.engine.dialect := (Head.attributes_eq hds :)
      have hsetters' : ds.attributes = W'.head.setters c.engine.dialect := Head.attributes_eq hds'
      have hshows' : W'.head.showsValue c.engine.dialect = false := by
        unfold Head.showsValue
        rw [← hsetters', hsetters]
        exact hshows
      refine decorated_composed (Matches.decorate ds hreads) rfl
        ((children_decorate hshows hsetters).trans hW) (children_decorate hshows' hsetters')
        fun V V' hV hV' => ?_
      exact fill_composed hscope hfirst hpath hsecond hE hoperator hobject htext hbefore hafter
        halike rfl hV hV' (hfilled.content?_removeAttr hds') room (depth + 1) isItem

end Wrappers

end Local

end TreeTemplate
