import TreeTemplate.Proofs.Injection.AfterWalks

/-!
# Resetting what has become of a tree

Where a tree that was just read can be reset, everything that injections and resets have made of it
can be, and leads to the same.

Main statements:

* `keeps_afterWalks_reset` — what a reset keeps, whether it succeeds or stops;
* `reset_of_afterWalks` — what a reset leads to.
-/

namespace TreeTemplate

open Stocked (ofTree)

variable {d : Dialect} {h : Head} {ts : List (Tree Unit)} {P Q : Element Unit} {ds : Directives}
  {operand : String}

namespace Local

/-! ## What a reset keeps -/

variable {below : Tree Unit → Stocked Unit → Prop} {act : Local (Element Unit) Unit}

/-- Removing what fills an element keeps the nodes that its operators leave alone. -/
lemma keeps_elementAfterWalks_undoContent {operator : ContentOperator}
    (hds : Directives.ofAttrs d h.shell.describe h.attrs = .ok ds)
    (hcontent : ds.content? = some (operator, operand)) :
    Keeps (ElementAfterWalks d true below h ts) (undoContent operator) := by
  have hfills (p : ContentOperator → Bool) : h.fills d p = p operator := by
    rw [Head.fills_of_content? hds p, hcontent]
    rfl
  have hmoves : true = false → h.still d = false := nofun
  have hrewords : true = false → h.fills d ContentOperator.rewords = false := nofun
  have htake {β : Type} {take : Local (Element Unit) β}
      (htakes : ∀ P, ElementAfterWalks d true below h ts P → (∃ f, take P = ⟨.error f, P, []⟩) ∨
        ∀ us, ElementAfterWalks d true below h ts ((take P).state.fill us)) :
      Keeps (ElementAfterWalks d true below h ts) (take >>= fun _ => clear) := by
    intro P hP
    rcases htakes P hP with ⟨f, he⟩ | hall
    · rw [bind_of_error he]
      exact hP
    · rcases e : take P with ⟨f | b, Q, notes⟩
      · rw [bind_of_error e]
        rw [e] at hall
        exact hall Q.children
      · rw [bind_of_ok e]
        rw [e] at hall
        exact hall []
  cases operator with
  | text =>
    exact keeps_elementAfterWalks_removeText
      (by simp [Head.rewords, hfills, ContentOperator.rewords]) hmoves
  | numbering =>
    exact keeps_elementAfterWalks_removeText
      (by simp [Head.rewords, hfills, ContentOperator.rewords]) hmoves
  | object => exact .pure ()
  | html => exact keeps_elementAfterWalks_fill (hfills _) hmoves
  | options => exact keeps_elementAfterWalks_fill (hfills _) hmoves
  | list ordered =>
    exact htake fun P hP =>
      keeps_elementAfterWalks_itemTemplate (hfills _) (hfills _) (hfills _) (hfills _) hrewords hP
  | map ordered =>
    exact htake fun P hP =>
      keeps_elementAfterWalks_entryTemplates (hfills _) (hfills _) (hfills _) (hfills _) hrewords hP

/-- Nothing is left below a list or a map whose copies were removed. -/
lemma children_undoContent {operator : ContentOperator} (hcopies : operator.copies = true)
    (hok : (undoContent operator P).result = .ok ()) :
    (undoContent operator P).state.children = [] := by
  cases operator with
  | list ordered =>
    obtain ⟨_, _, _, hstate, _⟩ := bind_eq_ok hok
    exact (congrArg Element.children hstate).trans rfl
  | map ordered =>
    obtain ⟨_, _, _, hstate, _⟩ := bind_eq_ok hok
    exact (congrArg Element.children hstate).trans rfl
  | _ => cases hcopies

/-- Removing what fills an element, and walking what is left below it. -/
lemma keeps_elementAfterWalks_unfill_below
    (hds : Directives.ofAttrs d h.shell.describe h.attrs = .ok ds)
    (hact : ∀ t ∈ ts, Keeps (fun P => AfterWalks d true t P.whole) act) :
    Keeps (ElementAfterWalks d true (AfterWalks d true) h ts)
    (unfill ds >>= fun _ => Local.below act) := by
  have hfills := Head.fills_of_content? hds ContentOperator.copies
  have hmoves : true = false → h.fills d ContentOperator.rewords = false := nofun
  unfold unfill
  cases hcontent : ds.content? with
  | none =>
    rw [hcontent] at hfills
    exact .bind (.pure _) fun _ => keeps_elementAfterWalks_below hfills hmoves hact
  | some declared =>
    obtain ⟨operator, operand⟩ := declared
    rw [hcontent] at hfills
    have hundo :
        Keeps (ElementAfterWalks d true (AfterWalks d true) h ts)
          (inOperator (.content operator) operand
        (undoContent operator)) := .inOperator (keeps_elementAfterWalks_undoContent hds hcontent)
    refine .bind_after hundo fun P _ hP hok => ?_
    have hkept := hundo P hP
    cases hcopies : operator.copies with
    | false => exact keeps_elementAfterWalks_below (hfills.trans hcopies) hmoves hact _ hkept
    | true =>
      rcases e : undoContent operator P with ⟨f | _, Q, notes⟩
      · simp only [inOperator, e] at hok
        cases hok
      · have hnil := children_undoContent hcopies (by rw [e] : (undoContent operator P).result = _)
        rw [e] at hnil
        simp only [inOperator, e] at hkept ⊢
        rw [below_of_nil hnil]
        exact hkept

/-- Undoes the operators of an element. -/
def undoAttributes (ops : List (AttributeOperator × String)) : Local (Element Unit) Unit :=
  ops.forM fun (operator, operand) =>
    inOperator (.attr operator) operand (undoAttribute operand operator)

/-- Undoing the operators of an element keeps the nodes that they leave alone. -/
lemma keeps_elementAfterWalks_undoAttributes
    (hresettable : (⟨h, [], ts.map ofTree⟩ : Element Unit).Resettable d)
    (hds : Directives.ofAttrs d h.shell.describe h.attrs = .ok ds) :
    Keeps (ElementAfterWalks d true below h ts) (undoAttributes ds.attributes) := by
  refine .undoAttributes_covered (t := h.shell) (fun Q hQ => hQ.head.agrees.1)
    fun op hop touch hcovers Q hQ => ?_
  rw [Head.attributes_eq hds] at hop
  exact hQ.touched hresettable.classed hresettable.unmarked hresettable.elements_eq_nil hop hcovers

/-- Showing an element again keeps what has become of it. -/
lemma keeps_elementAfterWalks_unhide
    (hds : Directives.ofAttrs d h.shell.describe h.attrs = .ok ds) :
    Keeps (ElementAfterWalks d true below h ts) (unhide ds) := by
  unfold unhide
  split
  · rename_i hconditional
    exact .change fun Q hQ => hQ.hide hds hconditional false
  · exact .pure _

/-- What a reset keeps, whether it succeeds or stops. -/
lemma keeps_afterWalks_reset (room depth : Nat) {t : Tree Unit} (ht : t.Resettable d) :
    Keeps (fun P => AfterWalks d true t P.whole) (reset d room depth) := by
  induction room generalizing depth t with
  | zero => exact fun _ h => h
  | succ room ih =>
    cases t with
    | text => exact fun P hP => nomatch hP
    | element label tag attrs hidden ts =>
      let h : Head := ⟨tag, attrs, hidden⟩
      obtain ⟨hresettable, hchildren⟩ := Tree.resettable_element.1 ht
      refine .directives_bind fun P ds hP hds => ?_
      have hwalked : ElementAfterWalks d true (AfterWalks d true) h ts P := .of_afterWalks hP
      have hds' : Directives.ofAttrs d h.shell.describe h.attrs = .ok ds :=
        Directives.ofAttrs_congr hds hwalked.head.agrees.symm.2
      have hkept : Keeps (ElementAfterWalks d true (AfterWalks d true) h ts)
          (resetDirectives (reset d room (depth + 1)) ds) :=
        .bind (keeps_elementAfterWalks_undoAttributes hresettable hds') fun _ =>
          .bind (keeps_elementAfterWalks_unhide hds') fun _ =>
            keeps_elementAfterWalks_unfill_below hds' fun t ht =>
            ih (depth + 1) (hchildren t ht)
      exact (hkept P hwalked).afterWalks

/-! ## What undoing the operators of an element leads to -/

/-- What undoes an operator depends on the tag of the element only. -/
lemma undoScript_congr (htag : P.head.tag = Q.head.tag) (operator : AttributeOperator) :
    operator.undoScript P.shell operand = operator.undoScript Q.shell operand := by
  cases operator with
  | value =>
    have hasTag : P.shell.hasTag valueTags = Q.shell.hasTag valueTags := by
      simp only [Tree.hasTag, Element.shell, Tree.tag, htag]
    simp only [AttributeOperator.undoScript, AttributeOperator.removeValueScript, hasTag]
  | _ => rfl

/-- Operators that can be undone at one element can be at every element with its tag. -/
lemma undoAttribute_of_ok {operator : AttributeOperator}
    (hok : (undoAttribute operand operator P).result = .ok ()) (htag : Q.head.tag = P.head.tag) :
    undoAttribute operand operator Q =
      ⟨.ok (), Q.after (operator.undoScript P.shell operand), []⟩ := by
  have hscript : operator.undoScript Q.shell operand = operator.undoScript P.shell operand :=
    undoScript_congr htag operator
  have hpasses : ∀ touch ∈ operator.undoScript P.shell operand, touch.passes := by
    by_contra hstop
    obtain ⟨_, f, _, hplay, _⟩ := play_error (.attr operator) operand hstop P
    have herror : (undoAttribute operand operator P).result = .error f := hplay
    rw [hok] at herror
    cases herror
  obtain ⟨notes, hplay, hnotes⟩ := play_of_passes (.attr operator) operand hpasses Q
  have hquiet : notes = [] := by
    refine List.map_eq_nil_iff.1 (hnotes.trans (List.filterMap_eq_nil_iff.2 fun touch ht => ?_))
    have hundoes := AttributeOperator.undoes_undoScript operator touch ht
    cases touch with
    | recover cause => cases hundoes
    | _ => rfl
  subst hquiet
  unfold undoAttribute
  rw [hscript, hplay]

/-- An action that succeeds does so in an operator. -/
lemma inOperator_of_ok {α : Type} (operator : Operator) (operand : String)
    {act : Local (Element Unit) α} {a : α} {notes : List Fault} (hrun : act P = ⟨.ok a, Q, notes⟩) :
    inOperator operator operand act P = ⟨.ok a, Q, notes⟩ := by
  simp only [inOperator, hrun]

/-- An action that succeeds in an operator does so by itself. -/
lemma inOperator_eq_ok {α : Type} {operator : Operator} {act : Local (Element Unit) α} {a : α}
    (hok : (inOperator operator operand act P).result = .ok a) : (act P).result = .ok a := by
  rcases e : act P with ⟨f | b, R, notes⟩
  · simp only [inOperator, e] at hok
    cases hok
  · simp only [inOperator, e] at hok
    exact hok

/-- Operators that can be undone at one element can be at every element with its tag. -/
lemma undoAttributes_of_ok {ops : List (AttributeOperator × String)}
    (hok : (undoAttributes ops P).result = .ok ()) (htag : Q.head.tag = P.head.tag) :
    undoAttributes ops Q =
      ⟨.ok (), Q.after (ops.flatMap fun op => op.1.undoScript P.shell op.2), []⟩ := by
  induction ops generalizing P Q with
  | nil => rfl
  | cons op ops ih =>
    obtain ⟨operator, operand⟩ := op
    have hcons : undoAttributes ((operator, operand) :: ops) =
        (inOperator (.attr operator) operand (undoAttribute operand operator) >>= fun _ =>
          undoAttributes ops) := rfl
    rw [hcons] at hok ⊢
    obtain ⟨_, hfirst, hlater, -, -⟩ := bind_eq_ok hok
    have hundo := inOperator_eq_ok hfirst
    have hself := inOperator_of_ok (.attr operator) operand
      (undoAttribute_of_ok hundo (Q := P) rfl)
    have hother := inOperator_of_ok (.attr operator) operand (undoAttribute_of_ok hundo htag)
    rw [hself] at hlater
    rw [bind_of_ok hother]
    have hrest := ih hlater (Q := Q.after (operator.undoScript P.shell operand)) htag
    have hscripts : (ops.flatMap fun op => op.1.undoScript
        (P.after (operator.undoScript P.shell operand)).shell op.2) =
          ops.flatMap fun op => op.1.undoScript P.shell op.2 :=
      List.flatMap_congr fun op _ => undoScript_congr rfl op.1
    rw [hrest, hscripts, List.flatMap_cons, Element.after_append]
    rfl

/-! ## What is left below an element -/

/-- Where a value that is shown was removed there are no texts. -/
lemma childrenAfter_undoing (hshows : h.showsValue d = true) (us : List (Stocked Unit)) :
    (childrenAfter (h.undoing d) us).filter Stocked.isElement = childrenAfter (h.undoing d) us := by
  have hmem : Touch.removeText ∈ h.undoing d := by
    obtain ⟨op, hop, hvalue⟩ := List.any_eq_true.1 hshows
    obtain ⟨operator, operand⟩ := op
    simp only [Bool.and_eq_true, beq_iff_eq, Bool.not_eq_true'] at hvalue
    obtain ⟨rfl, htag⟩ := hvalue
    refine List.mem_flatMap.2 ⟨_, hop, ?_⟩
    simp [AttributeOperator.undoScript, AttributeOperator.removeValueScript, htag]
  have hkept (touches : List Touch) (hundoes : ∀ touch ∈ touches, touch.Undoes)
      (us : List (Stocked Unit))
        (hus : Touch.removeText ∈ touches ∨ us.filter Stocked.isElement = us) :
      (childrenAfter touches us).filter Stocked.isElement = childrenAfter touches us := by
    induction touches generalizing us with
    | nil => exact hus.resolve_left (by simp)
    | cons touch touches ih =>
      refine ih (fun _ hm => hundoes _ (List.mem_cons_of_mem _ hm)) (touch.onChildren us) ?_
      have hfirst := hundoes touch List.mem_cons_self
      cases touch with
      | removeText => exact .inr (by simp [Touch.onChildren])
      | fillText content => cases hfirst
      | _ => exact hus.imp_left fun hm => (List.mem_cons.1 hm).resolve_left (by simp)
  exact hkept _ (h.undoes_undoing d) us (.inl hmem)

/-- An element whose operators were undone: no texts are left where a value was shown. -/
structure Undone (d : Dialect) (h : Head) (ts : List (Tree Unit)) (head : Head)
    (P : Element Unit) : Prop where
  elementAfterWalks : ElementAfterWalks d true (AfterWalks d true) h ts P
  head_eq : P.head = head
  textless : h.showsValue d = true → P.children.filter Stocked.isElement = P.children

/-- Undoing its operators and showing it makes everything that has become of an element look the
same. -/
lemma undone_of_ok (hresettable : (⟨h, [], ts.map ofTree⟩ : Element Unit).Resettable d)
    (hds : Directives.ofAttrs d h.shell.describe h.attrs = .ok ds)
    (hP : ElementAfterWalks d true (AfterWalks d true) h ts P)
    (hok : ((undoAttributes ds.attributes >>= fun _ => unhide ds) P).result = .ok ()) :
    ∃ head, ∀ Q, ElementAfterWalks d true (AfterWalks d true) h ts Q → ∃ R, Undone d h ts head R ∧
      (undoAttributes ds.attributes >>= fun _ => unhide ds) Q = ⟨.ok (), R, []⟩ := by
  obtain ⟨_, hundo, -, -, -⟩ := bind_eq_ok hok
  have hscripts : (ds.attributes.flatMap fun op => op.1.undoScript P.shell op.2) =
      h.undoing d := by
    rw [Head.attributes_eq hds]
    exact List.flatMap_congr fun op _ =>
      undoScript_congr (Q := ⟨h, [], []⟩) hP.head.agrees.1 op.1
  refine ⟨⟨h.tag, attrsAfter (h.undoing d) h.attrs,
    if ds.conditional?.isSome then false else h.hidden⟩, fun Q hQ => ?_⟩
  have hrun := undoAttributes_of_ok hundo (hQ.head.agrees.1.trans hP.head.agrees.1.symm)
  rw [hscripts] at hrun
  have hwalked : ElementAfterWalks d true (AfterWalks d true) h ts (Q.after (h.undoing d)) := by
    have hkept := keeps_elementAfterWalks_undoAttributes hresettable hds Q hQ
    rwa [hrun] at hkept
  have hshown := keeps_elementAfterWalks_unhide hds _ hwalked
  refine ⟨(unhide ds (Q.after (h.undoing d))).state, ⟨hshown, ?_, fun hshows => ?_⟩, ?_⟩
  · unfold unhide
    cases hconditional : ds.conditional? with
    | none =>
      have hhidden := hQ.head.hidden ds hds hconditional
      simp only [Option.isSome_none, Bool.false_eq_true, if_false, pure_apply, Element.after,
        hQ.head.attrs, hhidden, hQ.head.agrees.1]
    | some declared =>
      simp only [Option.isSome_some, if_true]
      change (⟨_, _, _⟩ : Head) = _
      rw [← hQ.head.attrs, ← hQ.head.agrees.1]
      rfl
  · unfold unhide
    split
    · exact childrenAfter_undoing hshows Q.children
    · exact childrenAfter_undoing hshows Q.children
  · rw [bind_of_ok hrun]
    unfold unhide
    split <;> rfl

/-- An action leaves the same head and the same stock of an element, and what has become of the same
nodes below it. -/
def Leaves (d : Dialect) (h : Head) (ts : List (Tree Unit)) (head : Head)
    (act : Local (Element Unit) Unit) : Prop :=
  ∃ stock, ∃ xs ⊆ ts, ∀ Q, Undone d h ts head Q → ∃ us, List.Forall₂ (AfterWalks d true) xs us ∧
    act Q = ⟨.ok (), ⟨head, stock, us⟩, []⟩

namespace Leaves

variable {head : Head}

/-- The nodes below an element that are left alone are some of those below it. -/
lemma settled_subset (d : Dialect) (h : Head) (ts : List (Tree Unit)) :
    h.settled d Tree.isElement ts ⊆ ts := by
  unfold Head.settled
  split
  · exact List.filter_subset_self ts
  · exact List.Subset.refl ts

/-- An action leaves in an operator what it leaves by itself. -/
lemma inOperator {act : Local (Element Unit) Unit} (hact : Leaves d h ts head act)
    (operator : Operator) : Leaves d h ts head (Local.inOperator operator operand act) := by
  obtain ⟨stock, xs, hxs, hall⟩ := hact
  refine ⟨stock, xs, hxs, fun Q hQ => ?_⟩
  obtain ⟨us, hus, hrun⟩ := hall Q hQ
  exact ⟨us, hus, inOperator_of_ok _ _ hrun⟩

/-- Doing nothing leaves what is below an element that no operator refills. -/
lemma pure (hrewords : h.fills d ContentOperator.rewords = false)
    (hclears : h.fills d ContentOperator.clears = false)
    (hcopies : h.fills d ContentOperator.copies = false) : Leaves d h ts head (Pure.pure ()) := by
  refine ⟨[], _, settled_subset d h ts, fun Q hQ => ⟨Q.children, ?_, ?_⟩⟩
  · have hkept := hQ.elementAfterWalks.kept hclears hcopies
    have hall : h.settled d Stocked.isElement Q.children = Q.children := by
      unfold Head.settled
      split
      · rename_i hdeclared
        exact hQ.textless (by simpa [Head.rewords, hrewords] using hdeclared)
      · rfl
    rwa [hall] at hkept
  · rw [← hQ.head_eq, ← hQ.elementAfterWalks.bare hcopies]
    rfl

/-- Texts go where operators put texts. -/
lemma removeText (hrewords : h.fills d ContentOperator.rewords = true)
    (hclears : h.fills d ContentOperator.clears = false)
    (hcopies : h.fills d ContentOperator.copies = false) :
    Leaves d h ts head Local.removeText := by
  refine ⟨[], _, settled_subset d h ts, fun Q hQ =>
    ⟨Q.children.filter Stocked.isElement, ?_, ?_⟩⟩
  · have hkept := hQ.elementAfterWalks.kept hclears hcopies
    simpa [Head.settled, Head.rewords, hrewords] using hkept
  · rw [← hQ.head_eq, ← hQ.elementAfterWalks.bare hcopies]
    rfl

/-- Clearing leaves what is below an element that no operator copies into. -/
lemma clear (hcopies : h.fills d ContentOperator.copies = false) :
    Leaves d h ts head Local.clear := by
  refine ⟨[], [], List.nil_subset ts, fun Q hQ => ⟨[], .nil, ?_⟩⟩
  have hstock := hQ.elementAfterWalks.bare hcopies
  change (⟨.ok (), ⟨Q.head, Q.stock, []⟩, []⟩ : Yield (Element Unit) Unit) = _
  rw [hQ.head_eq, hstock]

/-- The templates that an element gives are those it gave before. -/
lemma take_clear {β : Type} {take : Local (Element Unit) β} {b : β} {stock : List (Stocked Unit)}
    (htake : ∀ Q, Undone d h ts head Q → ∃ us, take Q = ⟨.ok b, Q.stockUp stock us, []⟩) :
    Leaves d h ts head (take >>= fun _ => Local.clear) := by
  refine ⟨stock, [], List.nil_subset ts, fun Q hQ => ⟨[], .nil, ?_⟩⟩
  obtain ⟨us, hrun⟩ := htake Q hQ
  rw [bind_of_ok hrun, ← hQ.head_eq]
  rfl

end Leaves

/-- What is left of elements that were read as the same, as soon as it is left of one of them. -/
lemma leaves_undoContent {operator : ContentOperator} {head : Head}
    (hds : Directives.ofAttrs d h.shell.describe h.attrs = .ok ds)
    (hcontent : ds.content? = some (operator, operand)) (hP : Undone d h ts head P)
    (hok : (undoContent operator P).result = .ok ()) :
    Leaves d h ts head (undoContent operator) := by
  have hfills (p : ContentOperator → Bool) : h.fills d p = p operator := by
    rw [Head.fills_of_content? hds p, hcontent]
    rfl
  cases operator with
  | text => exact .removeText (hfills _) (hfills _) (hfills _)
  | numbering => exact .removeText (hfills _) (hfills _) (hfills _)
  | html => exact .clear (hfills _)
  | options => exact .clear (hfills _)
  | object => exact .pure (hfills _) (hfills _) (hfills _)
  | list ordered =>
    have htaken {Q : Element Unit} (hQ : Undone d h ts head Q) :=
      hQ.elementAfterWalks.taken (hfills _) (hfills _)
    cases hts : ts.filter Tree.isElement with
    | nil =>
      obtain ⟨f, he⟩ := (htaken hP).itemTemplate_error (hfills _) hts
      have hstop : undoContent (.list ordered) P = ⟨.error f, P, []⟩ := bind_of_error he
      rw [hstop] at hok
      cases hok
    | cons template others =>
      exact .take_clear fun Q hQ => (htaken hQ).itemTemplate (hfills _) hts
  | map ordered =>
    have htaken {Q : Element Unit} (hQ : Undone d h ts head Q) :=
      hQ.elementAfterWalks.taken (hfills _) (hfills _)
    by_cases hts : ∃ key value others, ts.filter Tree.isElement = key :: value :: others
    · obtain ⟨key, value, others, hts⟩ := hts
      exact .take_clear fun Q hQ => (htaken hQ).entryTemplates (hfills _) hts
    · obtain ⟨f, he⟩ := (htaken hP).entryTemplates_error (hfills _) fun key value others he =>
        hts ⟨key, value, others, he⟩
      have hstop : undoContent (.map ordered) P = ⟨.error f, P, []⟩ := bind_of_error he
      rw [hstop] at hok
      cases hok

/-- Undoing the operator that fills an element leaves what has become of the same nodes. -/
lemma leaves_unfill {head : Head} (hds : Directives.ofAttrs d h.shell.describe h.attrs = .ok ds)
    (hP : Undone d h ts head P) (hok : (unfill ds P).result = .ok ()) :
    Leaves d h ts head (unfill ds) := by
  unfold unfill at hok ⊢
  cases hcontent : ds.content? with
  | none =>
    have hfills (p : ContentOperator → Bool) : h.fills d p = false := by
      rw [Head.fills_of_content? hds p, hcontent]
      rfl
    exact .pure (hfills _) (hfills _) (hfills _)
  | some declared =>
    rw [hcontent] at hok
    exact (leaves_undoContent hds hcontent hP (inOperator_eq_ok hok)).inOperator _

/-- Elements side by side that were read as the same are reset to the same. -/
lemma sweep_of_afterWalks {act : Local (Element Unit) Unit} {xs : List (Tree Unit)}
    {us : List (Stocked Unit)} (hus : List.Forall₂ (AfterWalks d true) xs us)
    (hact : ∀ x ∈ xs, ∀ P, AfterWalks d true x P.whole → (act P).result = .ok () →
      ∃ S, ∀ Q, AfterWalks d true x Q.whole → act Q = ⟨.ok (), S, []⟩)
    (hok : (sweep (us.map fun t => (t, act))).result = .ok ()) :
    ∃ vs, ∀ us', List.Forall₂ (AfterWalks d true) xs us' →
      sweep (us'.map fun t => (t, act)) = ⟨.ok (), vs, []⟩ := by
  induction hus with
  | nil =>
    refine ⟨[], fun us' hus' => ?_⟩
    cases hus'
    rfl
  | @cons x u xs us hu _ ih =>
    rw [List.map_cons] at hok
    rcases e : onElement act u with ⟨f | _, v, notes⟩
    · rw [sweep_cons_of_error e] at hok
      cases hok
    · rw [sweep_cons_of_ok e] at hok
      obtain ⟨vs, hvs⟩ := ih (fun y hy => hact y (List.mem_cons_of_mem _ hy)) hok
      -- the first node is left alone if it is a text, and reset by hypothesis otherwise
      have hfirst : ∃ v, ∀ u', AfterWalks d true x u' → onElement act u' = ⟨.ok (), v, []⟩ := by
        cases u with
        | text label content =>
          cases hu
          refine ⟨.text () content, fun u' hu' => ?_⟩
          cases hu'
          rfl
        | element label head stock children =>
          obtain ⟨S, hS⟩ := hact x List.mem_cons_self ⟨head, stock, children⟩ hu
            (congrArg Yield.result e)
          refine ⟨S.whole, fun u' hu' => ?_⟩
          cases u' with
          | text label content =>
            cases hu'
            cases hu
          | element label' head' stock' children' =>
            have hrun := hS ⟨head', stock', children'⟩ hu'
            exact (onElement_whole act ⟨head', stock', children'⟩).trans (by rw [hrun])
      obtain ⟨v', hv'⟩ := hfirst
      refine ⟨v' :: vs, fun us' hus' => ?_⟩
      cases hus' with
      | cons hu' hlater =>
        rw [List.map_cons, sweep_cons_of_ok (hv' _ hu'), hvs _ hlater]
        rfl

/-- Whatever has become of an element is reset to the same, as soon as one of it can be reset. -/
lemma reset_of_afterWalks (room depth : Nat) {t : Tree Unit} (ht : t.Resettable d)
    (hP : AfterWalks d true t P.whole) (hok : (reset d room depth P).result = .ok ()) :
    ∃ S, ∀ Q, AfterWalks d true t Q.whole → reset d room depth Q = ⟨.ok (), S, []⟩ := by
  induction room generalizing depth t P with
  | zero => cases hok
  | succ room ih =>
    cases t with
    | text => exact nomatch hP
    | element label tag attrs hidden ts =>
      let h : Head := ⟨tag, attrs, hidden⟩
      obtain ⟨hresettable, hchildren⟩ := Tree.resettable_element.1 ht
      unfold reset at hok ⊢
      obtain ⟨ds, hdirectives, hrest, -, -⟩ := bind_eq_ok hok
      obtain ⟨hds, hrun⟩ := directives_eq_ok hdirectives
      rw [hrun] at hrest
      have hwalked : ElementAfterWalks d true (AfterWalks d true) h ts P := .of_afterWalks hP
      have hds' : Directives.ofAttrs d h.shell.describe h.attrs = .ok ds :=
        Directives.ofAttrs_congr hds hwalked.head.agrees.symm.2
      have hsplit : resetDirectives (reset d room (depth + 1)) ds =
          ((undoAttributes ds.attributes >>= fun _ => unhide ds) >>= fun _ => unfill ds >>= fun _ =>
            Local.below (reset d room (depth + 1))) := by
        rw [bind_assoc]
        rfl
      rw [hsplit] at hrest
      obtain ⟨_, hundo, hrest, -, -⟩ := bind_eq_ok hrest
      obtain ⟨head, hundone⟩ := undone_of_ok hresettable hds' hwalked hundo
      obtain ⟨R, hR, hrunR⟩ := hundone P hwalked
      rw [hrunR] at hrest
      obtain ⟨_, hunfill, hbelow, -, -⟩ := bind_eq_ok hrest
      obtain ⟨stock, xs, hxs, hunfilled⟩ := leaves_unfill hds' hR hunfill
      obtain ⟨us, hus, hrunU⟩ := hunfilled R hR
      rw [hrunU] at hbelow
      obtain ⟨vs, hvs⟩ := sweep_of_afterWalks hus (fun x hx P hP hok => ih (depth + 1)
        (hchildren x (hxs hx)) hP hok) hbelow
      -- the same steps lead to the same from everything that has become of the element
      refine ⟨⟨head, stock, vs⟩, fun Q hQ => ?_⟩
      have hQ' : ElementAfterWalks d true (AfterWalks d true) h ts Q := .of_afterWalks hQ
      obtain ⟨R', hR', hrunR'⟩ := hundone Q hQ'
      obtain ⟨us', hus', hrunU'⟩ := hunfilled R' hR'
      have hdirectives' : directives d Q = ⟨.ok ds, Q, []⟩ :=
        directives_of_ok (Directives.ofAttrs_congr hds' hQ'.head.agrees.2)
      have hswept : Local.below (reset d room (depth + 1)) ⟨head, stock, us'⟩ =
          ⟨.ok (), ⟨head, stock, vs⟩, []⟩ := by
        change (⟨_, _, _⟩ : Yield (Element Unit) Unit) = _
        simp only [hvs us' hus', Element.fill]
      rw [bind_of_ok hdirectives', hsplit, bind_of_ok hrunR', bind_of_ok hrunU', hswept]
      rfl

end Local

end TreeTemplate
