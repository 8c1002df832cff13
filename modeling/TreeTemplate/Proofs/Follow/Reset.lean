import TreeTemplate.Proofs.Follow.Inject

/-!
# Reset, followed

Reset follows the local action for it, wherever no element is left by a jump. What is below an
element is walked after its content was removed, so what the markup holds that an element was filled
with does not count.

Main statements:

* `reset_follows` — reset as a whole.
-/

namespace TreeTemplate

variable {here : Place} {φ : Frame} {s : Walk.State} {P : Element NodeId} {operand : String}
  {dialect : Dialect}

/-- The elements below an element are left by no jump. -/
def Element.Open (dialect : Dialect) (P : Element Unit) : Prop :=
  ∀ t ∈ P.elements, t.Unjumped dialect

namespace Local

variable {ds : Directives}

/-- Clearing leaves an element below which no jump leaves an element. -/
lemma keeps_open_clear : Keeps (Element.Open dialect) clear :=
  Keeps.change fun _ _ _ ht => nomatch ht

/-- Undoing an operator leaves an element below which no jump leaves an element. -/
lemma keeps_open_undoContent (operator : ContentOperator) :
    Keeps (Element.Open dialect) (undoContent operator) := by
  have hremove : Keeps (Element.Open dialect) removeText := Keeps.change fun P hP t ht => by
    refine hP t ?_
    simpa [Element.removeText, Element.fill, Element.elements] using ht
  cases operator with
  | text => exact hremove
  | numbering => exact hremove
  | html => exact keeps_open_clear
  | options => exact keeps_open_clear
  | object => exact .pure ()
  | list _ =>
    refine .bind (fun P hP => ?_) fun _ => keeps_open_clear
    unfold itemTemplate
    split
    · exact hP
    · exact hP
    · split
      · exact fun t ht => hP t (((List.eraseP_sublist).filter _).subset ht)
      · exact hP
  | map _ =>
    refine .bind (fun P hP => ?_) fun _ => keeps_open_clear
    unfold entryTemplates
    split
    · exact hP
    · exact hP
    · split
      · exact fun t ht =>
          hP t (((List.eraseP_sublist.trans List.eraseP_sublist).filter _).subset ht)
      · exact hP
      · exact hP

/-- Undoing an operator leaves an element ready. -/
lemma keeps_ready_undoContent (operator : ContentOperator) :
    Keeps Element.Ready (undoContent operator) := by
  cases operator with
  | text => exact keeps_removeText
  | numbering => exact keeps_removeText
  | html => exact keeps_clear
  | options => exact keeps_clear
  | object => exact .pure ()
  | list _ => exact .bind keeps_itemTemplate fun _ => keeps_clear
  | map _ => exact .bind keeps_entryTemplates fun _ => keeps_clear

/-- What is left below an element whose content was removed can be walked. -/
lemma unfill_open {P : Element Unit} (hP : P.Ready)
    (hopen : (∀ operand, ds.content? ≠ some (.html, operand)) → P.Open dialect) :
    (unfill ds P).state.Ready ∧ (unfill ds P).state.Open dialect := by
  unfold unfill
  cases e : ds.content? with
  | none => exact ⟨hP, hopen (by simp [e])⟩
  | some declared =>
    obtain ⟨operator, operand⟩ := declared
    refine ⟨Keeps.inOperator (keeps_ready_undoContent operator) P hP, ?_⟩
    by_cases hhtml : operator = .html
    · subst hhtml
      exact fun _ ht => nomatch ht
    · refine Keeps.inOperator (keeps_open_undoContent operator) P (hopen fun operand' e' => ?_)
      rw [e] at e'
      cases e'
      exact hhtml rfl

end Local

namespace Follows

variable {ds : Directives} {I : Element Unit → Prop}

/-- Showing an element again follows the local action. -/
lemma unhide : Follows here φ I (Walk.unhide here.node ds) (Local.unhide ds) := by
  unfold Walk.unhide Local.unhide
  split
  · exact setHidden false
  · exact pure ()

/-- Undoing the operator that fills an element follows the local action. -/
lemma unfill : Follows here φ Element.Ready (Walk.unfill here.node ds) (Local.unfill ds) := by
  unfold Walk.unfill Local.unfill
  cases ds.content? with
  | none => exact pure ()
  | some declared => exact inOperator (undoContent _)

end Follows

/-- Reset follows the local action for it. -/
lemma reset_follows (room depth : Nat) (hdepth : here.depth = depth)
    (hentered : Entered dialect P.bare.whole) (h : Holds s here φ P) :
    Reaches s (Shows here φ) (Walk.reset dialect room here.node s)
      (Local.reset dialect room depth P.bare) := by
  induction room generalizing depth here φ s P with
  | zero =>
    subst hdepth
    exact Reaches.refuseDepth h
  | succ room ih =>
    subst hdepth
    refine Reaches.deeper h fun {s'} hholds => ?_
    refine (Reaches.directives hholds).bind fun {ds} {s''} {Q} he hQ hholds' => ?_
    obtain ⟨hds, hsame⟩ := Local.directives_eq_ok he
    simp only [hsame] at hQ
    obtain ⟨hjump, hsupplied⟩ := hentered.supplied hds
    rw [← hQ] at hentered hsupplied
    rw [Walk.resetDirectives_eq _ _ hjump]
    -- each step leaves an element whose children are among the ones it had
    have hattributes : Local.Keeps (fun R => R.Ready ∧ Q.bare.Within R)
        (ds.attributes.forM fun attr =>
          Local.inOperator (.attr attr.1) attr.2 (Local.undoAttribute attr.2 attr.1)) :=
      .forM fun _ _ => .inOperator (.undoAttribute (fun touch R hR =>
        ⟨Element.Ready.apply touch R hR.1, Element.Within.apply touch R hR.2⟩) _)
    have hunhide : Local.Keeps (fun R => R.Ready ∧ Q.bare.Within R) (Local.unhide ds) :=
      .unhide (.change fun _ hR => hR)
    have hfollows : Follows { here with depth := here.depth + 1 } φ Element.Ready
        (ds.attributes.forM fun attr =>
          Walk.inOperator here.node (.attr attr.1) attr.2 (attr.1.undo here.node attr.2))
        (ds.attributes.forM fun attr =>
          Local.inOperator (.attr attr.1) attr.2 (Local.undoAttribute attr.2 attr.1)) :=
      .forM (fun _ _ => .inOperator (.undoAttribute _)) fun _ _ =>
        .inOperator (.undoAttribute Element.Ready.apply _)
    refine (hfollows hentered.children hholds').bind fun {_} {s₁} {Q₁} _ hQ₁ hholds₁ => ?_
    have hkept₁ := hattributes Q.bare ⟨hentered.children, rfl, fun _ ht => ht⟩
    rw [← hQ₁] at hkept₁
    refine (Follows.unhide (I := Element.Ready) hkept₁.1 hholds₁).bind
      fun {_} {s₂} {Q₂} _ hQ₂ hholds₂ => ?_
    have hkept₂ := hunhide Q₁.bare hkept₁
    rw [← hQ₂] at hkept₂
    refine (Follows.unfill hkept₂.1 hholds₂).bind fun {_} {s₃} {Q₃} _ hQ₃ hholds₃ => ?_
    -- markup that was filled in is gone by now, so that what is below may be entered
    obtain ⟨hready₃, hopen₃⟩ := Local.unfill_open hkept₂.1
      fun hhtml t ht => hsupplied hhtml t (.inr (hkept₂.2.2 t ht))
    rw [← hQ₃] at hready₃ hopen₃
    refine Reaches.below _ (fun t ht m R hR ψ s' hholds => ?_) hholds₃
    have hmem : R.bare.whole ∈ Q₃.bare.children := by
      rw [← Element.bare_labelled R m, ← hR]
      exact List.mem_map_of_mem ht
    have hchild : Entered dialect R.bare.whole :=
      ⟨(hready₃.fits _ hmem).1, (hready₃.fits _ hmem).2,
        hopen₃ _ (List.mem_filter.2 ⟨hmem, rfl⟩)⟩
    rw [hR]
    exact ih _ rfl hchild hholds

end TreeTemplate
