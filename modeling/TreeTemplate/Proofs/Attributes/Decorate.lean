import TreeTemplate.Proofs.Attributes.Sequence

/-!
# Decorating an element

The attributes of an element are set, and then it is shown or hidden. Both depend on the scope and
on what the element looks like to the operators, and neither looks at what it changes.

Main statements:

* `decorate_of_ok` — what becomes of all elements that look the same;
* `decorate_covered` — a property that is kept by what the operators of an element can write.
-/

namespace TreeTemplate

variable {c : Setting} {ds : Directives} {scope : Value} {b : Bool} {P Q : Element Unit}
  {touches : List Touch} {dialect : Dialect}

/-- Hides or shows an element, or leaves it as it is. -/
def Element.hide (hidden? : Option Bool) (P : Element Unit) : Element Unit :=
  { P with head := { P.head with hidden := hidden?.getD P.head.hidden } }

namespace Local

/-- Decides whether an element is shown. -/
def reveal (c : Setting) (ds : Directives) (scope : Value) : Local (Element Unit) Bool :=
  match ds.conditional? with
  | none => return true
  | some (operator, operand) => do
    match ← conditional c scope operand operator with
    | .shown => do
      setHidden false
      return true
    | .hidden => do
      setHidden true
      return false
    | .abandoned => return false

/-- An element is decorated in two steps. -/
lemma decorate_eq : decorate c ds scope =
    (attributes c scope ds.attributes >>= fun _ => reveal c ds scope) := by
  unfold decorate reveal attributes
  cases ds.conditional? <;> rfl

/-- Whether an element is shown does not depend on the element. -/
lemma reveal_of_ok (h : (reveal c ds scope P).result = .ok b) : ∃ hidden? noted,
    (ds.conditional? = none → hidden? = none) ∧ ∀ Q, ∃ notes,
      reveal c ds scope Q = ⟨.ok b, Q.hide hidden?, notes⟩ ∧ notes.map Fault.blur = noted := by
  unfold reveal at h ⊢
  cases hdeclared : ds.conditional? with
  | none =>
    rw [hdeclared] at h
    cases h
    exact ⟨none, [], fun _ => rfl, fun Q => ⟨[], rfl, rfl⟩⟩
  | some declared =>
    obtain ⟨operator, operand⟩ := declared
    rw [hdeclared] at h
    obtain ⟨visibility, hcondition, hrest, -, -⟩ := bind_eq_ok h
    have hall := (IgnoresElement.conditional c scope operand operator).of_ok hcondition
    generalize ((conditional c scope operand operator P).notes.map Fault.blur) = noted at hall
    -- the answer is the same for every element, and what follows it records nothing
    have hplayed {rest : Visibility → Local (Element Unit) Bool} {hidden? : Option Bool}
        (hquiet : ∀ Q, rest visibility Q = ⟨.ok b, Q.hide hidden?, []⟩) (Q : Element Unit) :
        ∃ notes, (conditional c scope operand operator >>= rest) Q =
          ⟨.ok b, Q.hide hidden?, notes⟩ ∧ notes.map Fault.blur = noted := by
      obtain ⟨notes, hrun, hblur⟩ := hall Q
      refine ⟨notes, ?_, hblur⟩
      rw [bind_of_ok hrun, hquiet, List.append_nil]
    cases visibility with
    | shown =>
      cases hrest
      exact ⟨some false, noted, nofun, hplayed fun Q => rfl⟩
    | hidden =>
      cases hrest
      exact ⟨some true, noted, nofun, hplayed fun Q => rfl⟩
    | abandoned =>
      cases hrest
      exact ⟨none, noted, fun _ => rfl, hplayed fun Q => rfl⟩

end Local

/-- Of elements that look the same both have operators that write no reserved name or none. -/
lemma Element.ReadsLike.unreserved {ops : List (AttributeOperator × String)}
    (h : P.ReadsLike dialect Q) (hops : Unreserved dialect P.shell ops) :
    Unreserved dialect Q.shell ops := by
  intro op hop name hname
  refine hops op hop name ?_
  cases hoperator : op.1 with
  | value =>
    rw [hoperator] at hname
    simpa only [AttributeOperator.written, h.hasTag] using hname
  | _ =>
    rw [hoperator] at hname
    exact hname

/-- Where one element is decorated, all that look the same are decorated in the same way. -/
lemma decorate_of_ok (hops : Unreserved c.engine.dialect P.shell ds.attributes)
    (h : (Local.decorate c ds scope P).result = .ok b) : ∃ touches noted hidden? noted',
    DoesAll c P.shell scope ds.attributes touches noted ∧
      (ds.conditional? = none → hidden? = none) ∧
      ∀ Q, P.ReadsLike c.engine.dialect Q → ∃ notes,
        Local.decorate c ds scope Q = ⟨.ok b, (Q.after touches).hide hidden?, notes⟩ ∧
          notes.map Fault.blur = noted' := by
  rw [Local.decorate_eq] at h ⊢
  obtain ⟨_, hattributes, hreveal, -, -⟩ := Local.bind_eq_ok h
  obtain ⟨touches, noted, hdoes⟩ := doesAll_of_ok hops hattributes
  obtain ⟨hidden?, noted', hnone, hall⟩ := Local.reveal_of_ok hreveal
  refine ⟨touches, noted, hidden?, noted ++ noted', hdoes, hnone, fun Q hreads => ?_⟩
  obtain ⟨first, hfirst, hblur⟩ := (hdoes.congr hreads).run (hreads.unreserved hops)
  obtain ⟨later, hlater, hblur'⟩ := hall (Q.after touches)
  refine ⟨first ++ later, ?_, by rw [List.map_append, hblur, hblur']⟩
  rw [Local.bind_of_ok hfirst, hlater]

/-! ## What setting attributes keeps -/

/-- What an operand tells depends on the tag of the element alone. -/
lemma AttributeOperator.covers_congr {operator : AttributeOperator} {operand : String}
    {t t' : Tree Unit} (htag : t'.tag = t.tag) {touch : Touch}
    (h : operator.Covers t operand touch) : operator.Covers t' operand touch := by
  have hasTag (tags : List String) : t'.hasTag tags = t.hasTag tags := by
    simp only [Tree.hasTag, htag]
  cases touch with
  | put name value? =>
    cases operator with
    | value => simpa only [Covers, written, hasTag] using h
    | _ => exact h
  | removeText => exact ⟨h.1, (hasTag _).trans h.2⟩
  | fillText => exact ⟨h.1, (hasTag _).trans h.2⟩
  | _ => exact h

namespace Local.Keeps

variable {R : Element Unit → Prop} {t : Tree Unit} {operand : String} {operator : AttributeOperator}

/-- Undoing an operator keeps what the touches keep that the operator covers. -/
lemma undoAttribute_covered (htag : ∀ P, R P → P.head.tag = t.tag)
    (h : ∀ touch, operator.Covers t operand touch → ∀ P, R P → R (touch.apply P)) :
    Keeps R (Local.undoAttribute operand operator) := by
  intro P hP
  refine play (fun touch ht => h touch ?_) P hP
  exact AttributeOperator.covers_congr (htag P hP).symm
    (AttributeOperator.covers_undoScript operator touch ht)

/-- An operator keeps what the touches keep that it covers. -/
lemma execute_covered (htag : ∀ P, R P → P.head.tag = t.tag)
    (h : ∀ touch, operator.Covers t operand touch → ∀ P, R P → R (touch.apply P)) :
    Keeps R (Local.execute c scope operand operator) := by
  refine guarded (undoAttribute_covered htag h) fun P hP => ?_
  refine play (fun touch ht => h touch ?_) P hP
  exact AttributeOperator.covers_congr (htag P hP).symm
    (AttributeOperator.covers_script operator touch ht)

/-- Decorating an element keeps what the touches keep that its operators cover. -/
lemma decorate_covered (htag : ∀ P, R P → P.head.tag = t.tag)
    (h : ∀ op ∈ ds.attributes, ∀ touch, op.1.Covers t op.2 touch → ∀ P, R P → R (touch.apply P))
    (hhidden : ds.conditional?.isSome = true → ∀ hidden, Keeps R (setHidden hidden)) :
    Keeps R (Local.decorate c ds scope) := by
  refine bind (forM fun op hop => execute_covered htag (h op hop)) fun _ => ?_
  cases hdeclared : ds.conditional? with
  | none => exact pure _
  | some declared =>
    have hset := hhidden (by rw [hdeclared]; rfl)
    refine bind (conditional _ _ _) fun visibility => ?_
    cases visibility with
    | shown => exact bind (hset _) fun _ => pure _
    | hidden => exact bind (hset _) fun _ => pure _
    | abandoned => exact pure _

/-- Undoing the operators of an element keeps what the touches keep that they cover. -/
lemma undoAttributes_covered (htag : ∀ P, R P → P.head.tag = t.tag)
    (h : ∀ op ∈ ds.attributes, ∀ touch, op.1.Covers t op.2 touch →
      ∀ P, R P → R (touch.apply P)) :
    Keeps R (ds.attributes.forM fun (operator, operand) =>
      Local.inOperator (.attr operator) operand (Local.undoAttribute operand operator)) :=
  forM fun op hop => inOperator (undoAttribute_covered htag (h op hop))

end Local.Keeps

end TreeTemplate
