import TreeTemplate.Markup.Writer
import TreeTemplate.Proofs.Attributes.Rearranged

/-!
# Markup in another order

Trees whose markup is the same but for the order of the attributes within a tag, and for the classes
of an element being written in another way.

Main statements:

* `Alike.exists_reordered` — trees that look alike have the same markup once one is put in order.
-/

namespace TreeTemplate.Tree

/-- Trees that are the same but for the order of attributes and the way in which classes are
written. -/
inductive Reordered : Tree Unit → Tree Unit → Prop
  | element {tag : String} {attrs attrs' : List (String × String)} {hidden : Bool}
    {children children' : List (Tree Unit)} (hattrs : Rearranged attrs attrs')
    (hchildren : List.Forall₂ Reordered children children') :
    Reordered (.element () tag attrs hidden children) (.element () tag attrs' hidden children')
  | text (content : String) : Reordered (.text () content) (.text () content)

/-- Trees that are the same but for the order of attributes and the way in which classes are
written. Nothing but their being hidden counts of hidden elements. -/
inductive Alike : Tree Unit → Tree Unit → Prop
  | element {tag : String} {attrs attrs' : List (String × String)} {hidden : Bool}
    {children children' : List (Tree Unit)} (hattrs : Rearranged attrs attrs')
    (hchildren : List.Forall₂ Alike children children') :
    Alike (.element () tag attrs hidden children) (.element () tag attrs' hidden children')
  | hidden {tag tag' : String} {attrs attrs' : List (String × String)}
    {children children' : List (Tree Unit)} :
    Alike (.element () tag attrs true children) (.element () tag' attrs' true children')
  | text (content : String) : Alike (.text () content) (.text () content)

variable {t u : Tree Unit}

/-- A tree is a reordering of itself. -/
lemma Reordered.refl (t : Tree Unit) : t.Reordered t := by
  induction t using Tree.induct with
  | text label content => exact .text content
  | element label tag attrs hidden children ih =>
    exact .element (.refl attrs) (List.forall₂_same.2 ih)

/-- A tree looks like itself. -/
lemma Alike.refl (t : Tree Unit) : t.Alike t := by
  induction t using Tree.induct with
  | text label content => exact .text content
  | element label tag attrs hidden children ih =>
    exact .element (.refl attrs) (List.forall₂_same.2 ih)

/-- Trees that look alike side by side have the same markup once those on the one side are put in
order. -/
lemma exists_reordered_all {ts us : List (Tree Unit)} (h : List.Forall₂ Alike ts us)
    (ih : ∀ t ∈ ts, ∀ u, t.Alike u → ∃ v, t.Reordered v ∧ v.markup = u.markup) :
    ∃ vs, List.Forall₂ Reordered ts vs ∧ markups vs = markups us := by
  induction h with
  | nil => exact ⟨[], .nil, rfl⟩
  | @cons t u ts us htu _ ihs =>
    obtain ⟨v, hv, hmarkup⟩ := ih t List.mem_cons_self u htu
    obtain ⟨vs, hvs, hmarkups⟩ := ihs fun t ht => ih t (List.mem_cons_of_mem _ ht)
    exact ⟨v :: vs, .cons hv hvs, by rw [markups, markups, hmarkup, hmarkups]⟩

/-- Trees that look alike have the same markup once one is put in order. -/
lemma Alike.exists_reordered (h : t.Alike u) : ∃ v, t.Reordered v ∧ v.markup = u.markup := by
  induction t using Tree.induct generalizing u with
  | text label content =>
    cases h
    exact ⟨_, .text content, rfl⟩
  | element label tag attrs hidden children ih =>
    cases h with
    | hidden => exact ⟨_, .refl _, by simp [markup]⟩
    | @element _ _ attrs' _ _ children' hattrs hchildren =>
      obtain ⟨vs, hvs, hmarkups⟩ := exists_reordered_all hchildren fun t ht u => ih t ht
      have hempty : vs.isEmpty = children'.isEmpty := by
        have hlength := hvs.length_eq.symm.trans hchildren.length_eq
        cases vs <;> cases children' <;> first | rfl | cases hlength
      exact ⟨.element () tag attrs' hidden vs, .element hattrs hvs, by
        rw [markup, markup, hempty, hmarkups]⟩

end TreeTemplate.Tree
