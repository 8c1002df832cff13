import TreeTemplate.Proofs.Attributes.Declared
import TreeTemplate.Proofs.Content.Again

/-!
# Injecting once more

An injection that succeeds changes nothing when it is done once more, as long as no element writes
an attribute twice or one that begins like a directive.

Main statements:

* `inject_again` — injecting a scope into an element and everything below it once more.
-/

namespace TreeTemplate

variable {c : Setting} {d : Dialect} {P Q : Element Unit}

/-- The operators of an element that set attributes do not get in one another's way. -/
structure Head.OperatorsApart (d : Dialect) (h : Head) : Prop where
  unmarked : h.Unmarked d
  writesOnce : h.WritesOnce d
  classed : h.Classed d
  classesOnce : h.ClassesOnce d

namespace Local

variable {enter : List Nat → Value → Bool → Local (Element Unit) Unit} {positions : List Nat}
  {scope : Value} {ds : Directives}

/-- Filling an element leaves its head as it is. -/
lemma keeps_head_fill (head : Head) : Keeps (fun P => P.head = head)
    (fill c enter positions ds scope false) := by
  rw [fill_eq]
  refine .bind ?_ fun inner? => ?_
  · cases ds.content? with
    | none => exact .pure _
    | some declared => exact keeps_head_content head _
  · cases inner? with
    | none => exact .pure _
    | some inner => exact fun _ h => h

/-- Decorating an element that looks as if it was decorated already refills it and does nothing
else. -/
lemma hide_after {touches : List Touch} {hidden? : Option Bool}
    (hattrs : attrsAfter touches (attrsAfter touches P.head.attrs) =
      attrsAfter touches P.head.attrs)
    (hQ : Q.head = ((P.after touches).hide hidden?).head) :
    (Q.after touches).hide hidden? = Q.fill ((refillOf touches).apply Q.children) := by
  obtain ⟨head, stock, children⟩ := Q
  dsimp only at hQ
  subst hQ
  simp only [Element.after, Element.hide, Element.fill, childrenAfter_eq, hattrs]
  cases hidden? <;> rfl

/-- Decorating an element refills it and sets its attributes. An element that looks as the first one
does afterwards is decorated in the same way, and is only refilled by it. -/
lemma decorate_again (hsteady : P.head.OperatorsApart c.engine.dialect)
    (hds : Directives.ofAttrs c.engine.dialect P.shell.describe P.head.attrs = .ok ds) {b : Bool}
    (hok : (decorate c ds scope P).result = .ok b) :
    ∃ g : Refill, g.Textual ∧
      (decorate c ds scope P).state.children = g.apply P.children ∧
      (decorate c ds scope P).state.head.attrs.filter
          (fun attr => c.engine.dialect.reserves attr.1) =
        P.head.attrs.filter (fun attr => c.engine.dialect.reserves attr.1) ∧
      ∀ R : Element Unit, R.head = (decorate c ds scope P).state.head → ∃ later,
        decorate c ds scope R = ⟨.ok b, R.fill (g.apply R.children), later⟩ ∧
          later.map Fault.blur = (decorate c ds scope P).notes.map Fault.blur := by
  have hops := hsteady.unmarked.unreserved_of hds
  obtain ⟨touches, noted, hidden?, noted', hdoes, -, hall⟩ := decorate_of_ok hops hok
  obtain ⟨first, hrun, hblur⟩ := hall P ⟨rfl, rfl⟩
  rw [hrun]
  refine ⟨refillOf touches, textual_refillOf touches, childrenAfter_eq touches P.children,
    hdoes.reserved hops P.head.attrs, fun R hR => ?_⟩
  have hreads : P.ReadsLike c.engine.dialect R := by
    unfold Element.ReadsLike
    rw [hR]
    exact hdoes.readsLike hops P
  obtain ⟨later, hrun', hblur'⟩ := hall R hreads
  -- no attribute and no class is written twice, so that writing all of them over changes nothing
  have hattrs : attrsAfter touches (attrsAfter touches P.head.attrs) =
      attrsAfter touches P.head.attrs := by
    refine hdoes.again ?_ (fun operand hop => ?_) _
    · rw [Head.attributes_eq hds]
      exact hsteady.writesOnce
    · rw [Head.attributes_eq hds] at hop
      exact hsteady.classed.distinct hsteady.classesOnce hop
  rw [hide_after hattrs hR] at hrun'
  exact ⟨later, hrun', hblur'.trans hblur.symm⟩

/-- An element that is decorated and filled is decorated and filled once more in the same way. -/
lemma injectDirectives_again (hsteady : P.head.OperatorsApart c.engine.dialect)
    (hds : Directives.ofAttrs c.engine.dialect P.shell.describe P.head.attrs = .ok ds)
    (h : ∀ inner (Q : Element Unit), Q.whole ∈ P.children → Again (enter positions inner false) Q)
    (hok : (injectDirectives c enter positions ds scope false P).result = .ok ()) :
    (injectDirectives c enter positions ds scope false P).state.head.attrs.filter
        (fun attr => c.engine.dialect.reserves attr.1) =
          P.head.attrs.filter (fun attr => c.engine.dialect.reserves attr.1) ∧
      ∃ notes, injectDirectives c enter positions ds scope false
          (injectDirectives c enter positions ds scope false P).state =
        ⟨.ok (), (injectDirectives c enter positions ds scope false P).state, notes⟩ ∧
      notes.map Fault.blur =
        (injectDirectives c enter positions ds scope false P).notes.map Fault.blur := by
  unfold injectDirectives at hok ⊢
  cases hnull : scope.isNull with
  | true =>
    simp only [hnull, if_true] at hok ⊢
    -- in a null scope nothing is decorated
    have hhead : (fill c enter positions ds scope false P).state.head = P.head :=
      keeps_head_fill P.head P rfl
    have hkeep : Refill.keep.Textual := trivial
    refine ⟨by rw [hhead], fill_again hkeep rfl h hok⟩
  | false =>
    simp only [hnull, Bool.false_eq_true, if_false] at hok ⊢
    obtain ⟨b, hdecorate, hrest, hstate, hnotes⟩ := bind_eq_ok hok
    obtain ⟨g, hg, hchildren, hreserved, hagain⟩ := decorate_again hsteady hds hdecorate
    rw [hstate, hnotes]
    generalize hrun : decorate c ds scope P = first at hdecorate hrest hchildren hreserved hagain ⊢
    obtain ⟨result, P', noted⟩ := first
    cases hdecorate
    dsimp only at hrest hchildren hreserved hagain ⊢
    cases b with
    | false =>
      obtain ⟨later, hrun', hblur⟩ := hagain P' rfl
      have hsame : g.apply P'.children = P'.children := by
        rw [hchildren]
        exact Refill.apply_again hg .keep P.children
      rw [hsame] at hrun'
      refine ⟨hreserved, later ++ [], bind_of_ok hrun', ?_⟩
      rw [List.map_append, List.map_append, hblur]
      rfl
    | true =>
      -- decorating leaves no element that was not there before
      have hbelow : ∀ inner (Q : Element Unit), Q.whole ∈ P'.children →
          Again (enter positions inner false) Q := by
        intro inner Q hQ
        rw [hchildren] at hQ
        exact h inner Q (hg.elements hQ rfl)
      obtain ⟨rest, hfill, hblur₂⟩ := fill_again hg hchildren hbelow hrest
      have hhead : (fill c enter positions ds scope false P').state.head = P'.head :=
        keeps_head_fill _ _ rfl
      obtain ⟨later, hrun', hblur⟩ := hagain _ hhead
      refine ⟨?_, later ++ rest, ?_, ?_⟩
      · rw [← hreserved]
        exact congrArg _ (congrArg Head.attrs hhead)
      · refine (bind_of_ok hrun').trans ?_
        simp only [if_true]
        rw [hfill]
      · rw [List.map_append, List.map_append, hblur]
        exact congrArg _ hblur₂

/-- Injecting a scope into an element and everything below it once more changes nothing. -/
lemma inject_again (room depth : Nat) (positions : List Nat) (scope : Value)
    (hP : P.whole.All fun P => P.head.OperatorsApart c.engine.dialect) :
    Again (inject c room depth positions scope false) P := by
  induction room generalizing depth scope P with
  | zero => exact fun h => nomatch h
  | succ room ih =>
    unfold inject
    intro hok
    obtain ⟨hsteady, -, hchildren⟩ := Stocked.all_element.1 hP
    obtain ⟨ds, hdirectives, hrest, hstate, hnotes⟩ := bind_eq_ok hok
    obtain ⟨hds, hrun⟩ := directives_eq_ok hdirectives
    have hbelow : ∀ inner (Q : Element Unit), Q.whole ∈ P.children →
        Again (inject c room (depth + 1) positions inner false) Q :=
      fun inner Q hQ => ih (depth + 1) inner (hchildren _ hQ)
    rw [hrun] at hrest hstate hnotes
    obtain ⟨hreserved, notes, hagain, hblur⟩ := injectDirectives_again hsteady hds hbelow hrest
    rw [hstate, hnotes]
    refine ⟨[] ++ notes, ?_, hblur⟩
    have hds' := directives_of_ok (P := (injectDirectives c (inject c room (depth + 1)) positions
      ds scope false P).state) (Directives.ofAttrs_congr hds hreserved)
    refine (bind_of_ok hds').trans ?_
    rw [hagain]

end Local

end TreeTemplate
