import TreeTemplate.Proofs.Attributes.Lists
import TreeTemplate.Proofs.Local.Directives

/-!
# Reserved names

The names of directives and of the attribute that names a formatter are reserved. Operators write
none of them, save where a clause names one: the attributes that have operators of their own are
called otherwise under every marker.

Main statements:

* `Dialect.reserves_own` — the names of the attributes with operators of their own;
* `Directives.ofAttrs_congr` — the directives depend on the reserved names only.
-/

namespace TreeTemplate

namespace Text

/-- What is left behind a beginning stood behind it. -/
lemma eq_append_of_afterPrefix? {first s rest : List Char}
    (h : afterPrefix? first s = some rest) : s = first ++ rest := by
  induction first generalizing s with
  | nil =>
    cases s <;> simpa [afterPrefix?] using h
  | cons b first ih =>
    cases s with
    | nil => cases h
    | cons c s =>
      simp only [afterPrefix?] at h
      split at h
      · rename_i e
        rw [e, ih h, List.cons_append]
      · cases h

/-- Behind a beginning is left what stands behind it. -/
lemma afterPrefix?_append (first rest : List Char) :
    afterPrefix? first (first ++ rest) = some rest := by
  induction first with
  | nil => cases rest <;> rfl
  | cons c first ih => simpa [afterPrefix?] using ih

end Text

namespace Dialect

variable {d : Dialect} {name : String}

/-- Whether a name begins like a directive. -/
def marks (d : Dialect) (name : String) : Bool :=
  (Text.afterPrefix? d.marker.toList name.toList).isSome

/-- Whether a name is that of a directive or of the attribute that names a formatter. -/
def reserves (d : Dialect) (name : String) : Bool :=
  (d.operator? name).isSome || name == d.formatAttribute

/-- What is reserved begins like a directive. -/
lemma reserves_eq_false (h : d.marks name = false) : d.reserves name = false := by
  have hnone : Text.afterPrefix? d.marker.toList name.toList = none := by
    simpa [marks] using h
  have hne : name ≠ d.formatAttribute := by
    rintro rfl
    simp [formatAttribute, String.toList_append, Text.afterPrefix?_append] at hnone
  simp [reserves, operator?, hnone, hne]

/-- The attributes that operators write without being told a name. -/
def ownNames : List String :=
  ["id", "src", "href", "title", "value", "class"]

/-- No name of an operator without its first letters is one. -/
lemma ofName?_suffix : ∀ name ∈ ownNames, ∀ k < 5,
    Operator.ofName? (String.ofList (name.toList.drop (k + 1))) = none := by
  decide +kernel

/-- The attributes that have operators of their own are not reserved. -/
lemma reserves_own (h : name ∈ ownNames) : d.reserves name = false := by
  have hlength : name.toList.length ≤ 5 := by
    revert name
    decide
  have hmarker : 1 ≤ d.marker.toList.length := by
    have hne := d.marker_ne
    rw [Nat.one_le_iff_ne_zero, ne_eq, List.length_eq_zero_iff, String.toList_eq_nil_iff]
    exact hne
  have hformat : name ≠ d.formatAttribute := by
    rintro rfl
    have : d.formatAttribute.toList.length = d.marker.toList.length + 6 := by
      simp [formatAttribute, String.toList_append]
    omega
  have hoperator : d.operator? name = none := by
    unfold operator?
    cases hrest : Text.afterPrefix? d.marker.toList name.toList with
    | none => rfl
    | some rest =>
      have happend := Text.eq_append_of_afterPrefix? hrest
      have hdrop : rest = name.toList.drop (d.marker.toList.length - 1 + 1) := by
        rw [Nat.sub_add_cancel hmarker, happend, List.drop_left]
      have hle : d.marker.toList.length ≤ name.toList.length := by
        rw [happend, List.length_append]
        omega
      rw [Option.bind_some, hdrop]
      exact ofName?_suffix name h _ (by omega)
  simp [reserves, hoperator, hformat]

end Dialect

namespace Directives

variable {dialect : Dialect} {element element' : String} {ds ds' : Directives}
  {attrs attrs' : List (String × String)}

/-- A directive that can be read does not depend on how the element is described. -/
lemma add_congr {attr : String × String} (h : add dialect element ds attr = .ok ds') :
    add dialect element' ds attr = .ok ds' := by
  obtain ⟨name, operand⟩ := attr
  simp only [add] at h ⊢
  split at h
  · exact h
  · split at h
    · cases h
    · exact h
  · split at h
    · cases h
    · exact h
  · split at h
    · cases h
    · exact h
  · exact h

/-- Attributes that declare nothing can be left out when directives are read. -/
lemma foldlM_filter (p : String → Bool) (hp : ∀ name, (dialect.operator? name).isSome → p name)
    (ds : Directives) : (attrs.filter fun attr => p attr.1).foldlM (add dialect element) ds =
      attrs.foldlM (add dialect element) ds := by
  induction attrs generalizing ds with
  | nil => rfl
  | cons attr attrs ih =>
    cases hattr : p attr.1 with
    | true =>
      rw [List.filter_cons, if_pos hattr, List.foldlM_cons, List.foldlM_cons]
      simp only [ih]
    | false =>
      have hnone : dialect.operator? attr.1 = none := by
        cases hop : dialect.operator? attr.1 with
        | none => rfl
        | some operator =>
          have := hp attr.1 (by rw [hop]; rfl)
          rw [hattr] at this
          cases this
      have hadd : add dialect element ds attr = .ok ds := by
        simp only [add, hnone]
      rw [List.filter_cons, if_neg (by simp [hattr]), List.foldlM_cons, hadd]
      exact ih ds

/-- Directives that can be read do not depend on how the element is described. -/
lemma foldlM_congr (h : attrs.foldlM (add dialect element) ds = .ok ds') :
    attrs.foldlM (add dialect element') ds = .ok ds' := by
  induction attrs generalizing ds with
  | nil => exact h
  | cons attr attrs ih =>
    obtain ⟨next, hnext, hrest⟩ := foldlM_cons_eq_ok h
    rw [List.foldlM_cons, add_congr hnext]
    exact ih hrest

/-- The directives depend on the attributes with reserved names only. -/
lemma ofAttrs_congr (h : ofAttrs dialect element attrs = .ok ds)
    (hattrs : attrs'.filter (fun attr => dialect.reserves attr.1) =
      attrs.filter fun attr => dialect.reserves attr.1) :
    ofAttrs dialect element' attrs' = .ok ds := by
  have hp (name : String) (hname : (dialect.operator? name).isSome) : dialect.reserves name := by
    simp [Dialect.reserves, hname]
  unfold ofAttrs at h ⊢
  rw [← foldlM_filter _ hp, hattrs, foldlM_filter _ hp]
  exact foldlM_congr h

end Directives

end TreeTemplate
