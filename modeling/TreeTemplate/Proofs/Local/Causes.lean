import Mathlib.Tactic.Lemma
import TreeTemplate.Walk.Attributes
import TreeTemplate.Walk.Directives

/-!
# Classes of causes

Why reading from a model can fail: because the model lacks something, or because the template is
written wrongly. Nothing that is read gives up a branch; where a value is shown a formatter may.

Main statements:

* `Path.read_class`, `Condition.holds_class` — paths and conditions;
* `Setting.display_class` — values that are shown;
* `Directives.ofAttrs_class`, `Directives.forSubtree_class` — directives of elements.
-/

namespace TreeTemplate

section

variable {α β ε : Type} {x : Except ε α} {error : ε}

/-- Of two things done in turn the first one fails, or the second one does. -/
lemma error_of_bind {f : α → Except ε β} (h : x >>= f = .error error) :
    x = .error error ∨ ∃ a, f a = .error error := by
  cases x with
  | error found =>
    cases h
    exact .inl rfl
  | ok a => exact .inr ⟨a, h⟩

/-- What is found and then changed fails where it is looked for. -/
lemma error_of_map {f : α → β} (h : x.map f = .error error) : x = .error error := by
  cases x with
  | error found =>
    cases h
    rfl
  | ok a => cases h

end

namespace Path

variable {model scope value : Value} {cause : Cause}

/-- A property that is not found is missing in the model. -/
lemma property_class {segment : String} (h : property value segment = .error cause) :
    cause.faultClass = .content := by
  unfold property at h
  split at h
  · split at h <;> cases h
    rfl
  · split at h
    · cases h
      rfl
    · split at h <;> cases h
      rfl
  · cases h
    rfl

/-- What a path does not find is missing in the model. -/
lemma follow_class {segments : List String} (h : follow value segments = .error cause) :
    cause.faultClass = .content := by
  induction segments generalizing value with
  | nil => cases h
  | cons segment segments ih =>
    simp only [follow] at h
    split at h
    · cases h
    · rcases error_of_bind h with hproperty | ⟨next, h⟩
      · exact property_class hproperty
      · exact ih h

/-- A path fails because the model lacks something, or because it is written wrongly. -/
lemma read_class {operand : String} (h : read model scope operand = .error cause) :
    cause.faultClass = .content ∨ cause.faultClass = .assertion := by
  unfold read at h
  split at h
  · cases h
    exact .inr rfl
  · rename_i path _
    cases path with
    | scope => cases h
    | absolute segments => exact .inl (follow_class h)
    | relative segments =>
      simp only [resolve] at h
      split at h
      · exact .inl (follow_class h)
      · cases h
        exact .inr rfl

end Path

/-- A fault is not that of a formatter. -/
def Fault.Formatted (f : Fault) : Prop :=
  ∀ message, f.cause ≠ .custom message

/-- A value is not shown because the template is written wrongly, or because a formatter fails. -/
lemma Setting.display_class {ι : Type} {c : Setting} {t : Tree ι} {value : Value} {cause : Cause}
    (h : c.display t value = .error cause) :
    cause.faultClass = .assertion ∨ ∃ message, cause = .custom message := by
  unfold display at h
  split at h
  · split at h
    · cases h
      exact .inl rfl
    · split at h
      · cases h
      · cases h
        exact .inr ⟨_, rfl⟩
  · split at h
    · cases h
    · cases h
      exact .inl rfl

/-- A value that cannot be shown in an attribute is an assertion. -/
lemma attributeText?_class {name : String} {value : Value} {cause : Cause}
    (h : attributeText? name value = .error cause) : cause.faultClass = .assertion := by
  unfold attributeText? at h
  split at h
  · cases h
  · cases h
  · split at h <;> cases h
    rfl
  · split at h <;> cases h
    rfl
  all_goals
    cases h
    rfl

/-- Clauses fail only where they are written wrongly. -/
lemma Clause.parse_class {operand : String} {cause : Cause}
    (h : Clause.parse operand = .error cause) : cause.faultClass = .assertion := by
  unfold Clause.parse at h
  split at h <;> cases h <;> rfl

namespace Directives

variable {dialect : Dialect} {element : String} {ds : Directives} {cause : Cause}

/-- A directive that is not accepted is in conflict with another one. -/
lemma add_conflict {attr : String × String} (h : add dialect element ds attr = .error cause) :
    ∃ first second, cause = .conflict element first second := by
  unfold add at h
  dsimp only at h
  split at h
  · cases h
  all_goals
    first
    | cases h
    | split at h <;> cases h
      exact ⟨_, _, rfl⟩

/-- Attributes declare no directives only where two of them are in each other's way. -/
lemma ofAttrs_conflict {attrs : List (String × String)}
    (h : ofAttrs dialect element attrs = .error cause) :
    ∃ first second, cause = .conflict element first second := by
  unfold ofAttrs at h
  generalize ({} : Directives) = ds at h
  induction attrs generalizing ds with
  | nil => cases h
  | cons attr attrs ih =>
    rw [List.foldlM_cons] at h
    rcases error_of_bind h with hadd | ⟨ds', h⟩
    · exact add_conflict hadd
    · exact ih ds' h

/-- Attributes declare no directives only where they are written wrongly. -/
lemma ofAttrs_class {attrs : List (String × String)}
    (h : ofAttrs dialect element attrs = .error cause) : cause.faultClass = .assertion := by
  obtain ⟨first, second, rfl⟩ := ofAttrs_conflict h
  rfl

/-- A value is not injected into an element by itself only where the template is written wrongly. -/
lemma forSubtree_class (h : ds.forSubtree element = .error cause) :
    cause.faultClass = .assertion := by
  unfold forSubtree at h
  split at h
  · cases h
  · split at h <;> cases h <;> rfl

end Directives

/-- A condition fails only where it is written wrongly. -/
lemma Condition.holds_class {model scope : Value} {condition : Condition} {cause : Cause}
    (h : condition.holds model scope = .error cause) : cause.faultClass = .assertion := by
  induction condition generalizing cause with
  | nil => cases h
  | cons s later ih =>
    rw [holds] at h
    rcases error_of_bind h with hs | ⟨⟨held, lacking⟩, h⟩
    · unfold Statement.holds at hs
      split at hs
      · cases hs
      · rename_i found' hread
        split at hs
        · cases hs
        · rename_i hclass
          cases hs
          exact (Path.read_class hread).resolve_left hclass
    · cases held with
      | false => cases h
      | true =>
        rcases error_of_bind h with hlater | ⟨answer, h⟩
        · exact ih hlater
        · cases h

/-- What a condition lacks is something that the model lacks. -/
lemma Condition.lacking_class {model scope : Value} {condition : Condition} {on : Bool}
    {lacking : List Cause} (h : condition.holds model scope = .ok (on, lacking)) :
    ∀ cause ∈ lacking, cause.faultClass = .content := by
  induction condition generalizing on lacking with
  | nil =>
    cases h
    simp
  | cons s later ih =>
    simp only [holds] at h
    cases hs : s.holds model scope with
    | error found =>
      rw [hs] at h
      cases h
    | ok answer =>
      obtain ⟨held, first⟩ := answer
      have hfirst : ∀ cause ∈ first, cause.faultClass = .content := by
        unfold Statement.holds at hs
        split at hs
        · cases hs
          simp
        · split at hs
          · rename_i hclass
            cases hs
            simpa using hclass
          · cases hs
      rw [hs] at h
      cases held with
      | false =>
        cases h
        exact hfirst
      | true =>
        cases hlater : Condition.holds model scope later with
        | error found =>
          simp only [bind, Except.bind, if_true, hlater] at h
          cases h
        | ok answer =>
          simp only [bind, Except.bind, if_true, hlater] at h
          cases h
          intro cause hc
          rcases List.mem_append.1 hc with hc | hc
          · exact hfirst cause hc
          · exact ih hlater cause hc

end TreeTemplate
