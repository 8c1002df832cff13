import TreeTemplate.Proofs.Attributes.Reserved
import TreeTemplate.Proofs.Attributes.Written
import TreeTemplate.Proofs.Local.Inject

/-!
# All operators that set attributes

The operators of an element that set attributes are run one after another. As long as none of them
writes a reserved name they do not change what the others do.

Main statements:

* `DoesAll.run`, `doesAll_of_ok` — the operators one after another;
* `DoesAll.again` — run once more they change no attribute.
-/

namespace TreeTemplate

open AttributeOperator

variable {c : Setting} {t : Tree Unit} {scope : Value} {ops : List (AttributeOperator × String)}
  {touches : List Touch} {noted : List Fault} {P Q : Element Unit} {dialect : Dialect}

/-! ## Other attributes -/

/-- Touches leave the attributes that they do not write as they are. -/
lemma filter_attrsAfter (p : String → Bool)
    (h : ∀ touch ∈ touches, ∀ name, touch.name? = some name → p name = false)
    (attrs : List (String × String)) :
    (attrsAfter touches attrs).filter (fun attr => p attr.1) =
      attrs.filter fun attr => p attr.1 := by
  induction touches generalizing attrs with
  | nil => rfl
  | cons touch touches ih =>
    have hlater := ih (fun _ hm => h _ (List.mem_cons_of_mem _ hm)) (touch.onAttrs attrs)
    exact hlater.trans (Touch.filter_onAttrs p (h touch List.mem_cons_self) attrs)

/-- Touches leave the value of an attribute that they do not write as it is. -/
lemma lookup_attrsAfter {name : String} (h : ∀ touch ∈ touches, touch.name? ≠ some name)
    (attrs : List (String × String)) :
    (attrsAfter touches attrs).lookup name = attrs.lookup name := by
  induction touches generalizing attrs with
  | nil => rfl
  | cons touch touches ih =>
    have hlater := ih (fun _ hm => h _ (List.mem_cons_of_mem _ hm)) (touch.onAttrs attrs)
    exact hlater.trans (Touch.lookup_onAttrs (h touch List.mem_cons_self) attrs)

/-- Touches that do not write the formatter leave an element looking the same. -/
lemma Element.readsLike_after
    (h : ∀ touch ∈ touches, touch.name? ≠ some dialect.formatAttribute) (P : Element Unit) :
    P.ReadsLike dialect (P.after touches) :=
  ⟨rfl, lookup_attrsAfter h P.head.attrs⟩

/-! ## Operators one after another -/

/-- Runs the operators of an element that set attributes. -/
def Local.attributes (c : Setting) (scope : Value) (ops : List (AttributeOperator × String)) :
    Local (Element Unit) Unit :=
  ops.forM fun (operator, operand) => execute c scope operand operator

/-- What several operators do and note, one after another. -/
inductive DoesAll (c : Setting) (t : Tree Unit) (scope : Value) :
    List (AttributeOperator × String) → List Touch → List Fault → Prop
  | nil : DoesAll c t scope [] [] []
  | cons {operator : AttributeOperator} {operand : String} {first later : List Touch}
    {noted noted' : List Fault} {ops : List (AttributeOperator × String)}
    (hfirst : operator.Does c t scope operand first noted)
    (hlater : DoesAll c t scope ops later noted') :
    DoesAll c t scope ((operator, operand) :: ops) (first ++ later) (noted ++ noted')

/-- No operator writes a reserved name. -/
def Unreserved (dialect : Dialect) (t : Tree Unit) (ops : List (AttributeOperator × String)) :
    Prop :=
  ∀ op ∈ ops, ∀ name ∈ op.1.written t op.2, dialect.reserves name = false

/-- Of operators that write no reserved name the later ones write none. -/
lemma Unreserved.tail {op : AttributeOperator × String} (h : Unreserved dialect t (op :: ops)) :
    Unreserved dialect t ops :=
  fun _ hm => h _ (List.mem_cons_of_mem _ hm)

/-- An operator that writes no reserved name writes no formatter. -/
lemma Unreserved.name_ne {operator : AttributeOperator} {operand : String}
    (h : Unreserved dialect t ((operator, operand) :: ops))
    (hdoes : operator.Does c t scope operand touches noted) :
    ∀ touch ∈ touches, touch.name? ≠ some dialect.formatAttribute := by
  intro touch ht hname
  have hreserved := h _ List.mem_cons_self _ ((hdoes.covers touch ht).name_mem hname)
  simp [Dialect.reserves] at hreserved

namespace DoesAll

/-- What an operator does is covered by it. -/
lemma covers (h : DoesAll c t scope ops touches noted) :
    ∀ touch ∈ touches, ∃ op ∈ ops, op.1.Covers t op.2 touch := by
  induction h with
  | nil => simp
  | cons hfirst hlater ih =>
    intro touch ht
    rcases List.mem_append.1 ht with ht | ht
    · exact ⟨_, List.mem_cons_self, hfirst.covers touch ht⟩
    · obtain ⟨op, hop, hcovers⟩ := ih touch ht
      exact ⟨op, List.mem_cons_of_mem _ hop, hcovers⟩

/-- What the touches of operators write is what the operators write. -/
lemma name_mem (h : DoesAll c t scope ops touches noted) {touch : Touch} (ht : touch ∈ touches)
    {name : String} (hname : touch.name? = some name) :
    name ∈ ops.flatMap fun op => op.1.written t op.2 := by
  obtain ⟨op, hop, hcovers⟩ := h.covers touch ht
  exact List.mem_flatMap.2 ⟨op, hop, hcovers.name_mem hname⟩

/-- Operators that do not write reserved names leave these as they are. -/
lemma reserved (h : DoesAll c t scope ops touches noted) (hops : Unreserved dialect t ops)
    (attrs : List (String × String)) :
    (attrsAfter touches attrs).filter (fun attr => dialect.reserves attr.1) =
      attrs.filter fun attr => dialect.reserves attr.1 := by
  refine filter_attrsAfter dialect.reserves (fun touch ht name hname => ?_) attrs
  obtain ⟨op, hop, hcovers⟩ := h.covers touch ht
  exact hops op hop name (hcovers.name_mem hname)

/-- Operators that write no reserved name leave an element that looks the same. -/
lemma readsLike (h : DoesAll c t scope ops touches noted) (hops : Unreserved dialect t ops)
    (P : Element Unit) : P.ReadsLike dialect (P.after touches) := by
  refine Element.readsLike_after (fun touch ht hname => ?_) P
  obtain ⟨op, hop, hcovers⟩ := h.covers touch ht
  have hreserved := hops op hop _ (hcovers.name_mem hname)
  simp [Dialect.reserves] at hreserved

/-- Operators do the same to elements that look the same. -/
lemma congr (h : DoesAll c P.shell scope ops touches noted)
    (hreads : P.ReadsLike c.engine.dialect Q) : DoesAll c Q.shell scope ops touches noted := by
  induction h with
  | nil => exact .nil
  | cons hfirst _ ih => exact .cons (hreads.does hfirst) ih

/-- Operators do what they are said to do. -/
lemma run (h : DoesAll c P.shell scope ops touches noted)
    (hops : Unreserved c.engine.dialect P.shell ops) : ∃ notes,
    Local.attributes c scope ops P = ⟨.ok (), P.after touches, notes⟩ ∧
      notes.map Fault.blur = noted := by
  induction ops generalizing P touches noted with
  | nil =>
    cases h
    exact ⟨[], rfl, rfl⟩
  | cons op ops ih =>
    cases h with
    | @cons operator operand first later noted noted' _ hfirst hlater =>
      obtain ⟨notes, hrun, hblur⟩ := hfirst.execute
      have hreads := Element.readsLike_after (hops.name_ne hfirst) P
      obtain ⟨notes', hrun', hblur'⟩ := ih (hlater.congr hreads)
        (by exact hops.tail)
      refine ⟨notes ++ notes', ?_, by rw [List.map_append, hblur, hblur']⟩
      have hcons : Local.attributes c scope ((operator, operand) :: ops) =
          (Local.execute c scope operand operator >>= fun _ => Local.attributes c scope ops) := rfl
      rw [hcons, Local.bind_of_ok hrun, hrun', Element.after_append]

/-- Operators that write different attributes and different classes do not undo one another. -/
lemma apart (h : DoesAll c t scope ops touches noted)
    (hwritten : (ops.flatMap fun op => op.1.written t op.2).Nodup)
    (hclasses : ∀ operand, (.classes, operand) ∈ ops → DistinctClasses operand) :
    touches.Pairwise Touch.Apart ∧ ∀ touch ∈ touches, touch.Proper := by
  induction h with
  | nil => exact ⟨.nil, by simp⟩
  | @cons operator operand first later _ _ ops hfirst hlater ih =>
    rw [List.flatMap_cons, List.nodup_append] at hwritten
    obtain ⟨hnodup, hrest, hdisjoint⟩ := hwritten
    have hself := hfirst.apart hnodup fun e => hclasses operand (by simp [e])
    have hothers := ih hrest fun operand hm => hclasses operand (List.mem_cons_of_mem _ hm)
    refine ⟨List.pairwise_append.2 ⟨hself.1, hothers.1, fun touch ht other ho => ?_⟩,
      List.forall_mem_append.2 ⟨hself.2, hothers.2⟩⟩
    refine apart_of_name fun name hname hname' => ?_
    exact hdisjoint name ((hfirst.covers touch ht).name_mem hname) name
      (hlater.name_mem ho hname') rfl

/-- Run once more, operators that write different attributes and classes change no attribute. -/
lemma again (h : DoesAll c t scope ops touches noted)
    (hwritten : (ops.flatMap fun op => op.1.written t op.2).Nodup)
    (hclasses : ∀ operand, (.classes, operand) ∈ ops → DistinctClasses operand)
    (attrs : List (String × String)) :
    attrsAfter touches (attrsAfter touches attrs) = attrsAfter touches attrs :=
  attrsAfter_again (h.apart hwritten hclasses).2 (h.apart hwritten hclasses).1 attrs

end DoesAll

/-- Operators that do not stop the walk do something. -/
lemma doesAll_of_ok (hops : Unreserved c.engine.dialect P.shell ops)
    (h : (Local.attributes c scope ops P).result = .ok ()) :
    ∃ touches noted, DoesAll c P.shell scope ops touches noted := by
  induction ops generalizing P with
  | nil => exact ⟨[], [], .nil⟩
  | cons op ops ih =>
    obtain ⟨operator, operand⟩ := op
    have hcons : Local.attributes c scope ((operator, operand) :: ops) =
        (Local.execute c scope operand operator >>= fun _ => Local.attributes c scope ops) := rfl
    rw [hcons] at h
    obtain ⟨_, hfirst, hlater, -, -⟩ := Local.bind_eq_ok h
    obtain ⟨first, noted, hdoes⟩ := does_of_execute hfirst
    obtain ⟨notes, hrun, -⟩ := hdoes.execute
    rw [hrun] at hlater
    have hreads := Element.readsLike_after (hops.name_ne hdoes) P
    obtain ⟨later, noted', hdoes'⟩ := ih (by exact hops.tail) hlater
    have hback : (P.after first).ReadsLike c.engine.dialect P := ⟨hreads.1.symm, hreads.2.symm⟩
    exact ⟨_, _, .cons hdoes (hdoes'.congr hback)⟩

end TreeTemplate
