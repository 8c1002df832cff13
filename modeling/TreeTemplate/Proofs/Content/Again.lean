import TreeTemplate.Proofs.Attributes.Decorate
import TreeTemplate.Proofs.Content.Copies

/-!
# Filling an element once more

An element that was filled is filled with the same once more: what makes no copies refills it in the
same way, and lists and maps make the same copies of the templates that are now in stock.

Main statements:

* `content_again` — operators that leave nothing to be walked;
* `sweep_again` — elements side by side that are walked once more;
* `fill_again` — the content as a whole.
-/

namespace TreeTemplate

variable {c : Setting} {scope : Value} {operand : String} {P Q : Element Unit} {g : Refill}

namespace Local

/-- Where an action succeeds, it changes nothing when it is done once more, and notes the same
faults. -/
def Again (act : Local (Element Unit) Unit) (P : Element Unit) : Prop :=
  (act P).result = .ok () → ∃ notes, act (act P).state = ⟨.ok (), (act P).state, notes⟩ ∧
    notes.map Fault.blur = (act P).notes.map Fault.blur

/-! ## Elements side by side -/

variable {act : Local (Element Unit) Unit} {ts : List (Stocked Unit)}

/-- An action on an element as a tree is the action on the element. -/
lemma onElement_whole (act : Local (Element Unit) Unit) (P : Element Unit) :
    onElement act P.whole = ⟨(act P).result, (act P).state.whole, (act P).notes⟩ := rfl

/-- Texts are left alone. -/
lemma sweep_texts (act : Local (Element Unit) Unit) (h : ts.filter Stocked.isElement = []) :
    sweep (ts.map fun t => (t, act)) = ⟨.ok (), ts, []⟩ := by
  induction ts with
  | nil => rfl
  | cons t ts ih =>
    cases t with
    | element => cases h
    | text label content =>
      have hfirst : onElement act (.text label content) = ⟨.ok (), .text label content, []⟩ := rfl
      rw [List.map_cons, sweep_cons_of_ok hfirst, ih h]
      rfl

/-- Elements stay elements. -/
lemma isElement_sweep (act : Local (Element Unit) Unit) (h : ∀ t ∈ ts, t.isElement = true) :
    ∀ u ∈ (sweep (ts.map fun t => (t, act))).state, u.isElement = true := by
  induction ts with
  | nil => simp [sweep]
  | cons t ts ih =>
    have hlater : ∀ u ∈ ts, u.isElement = true := fun u hu => h u (List.mem_cons_of_mem _ hu)
    have hfirst : (onElement act t).state.isElement = true := by
      cases t with
      | element => rfl
      | text => cases h _ List.mem_cons_self
    rcases e : onElement act t with ⟨f | _, u, notes⟩
    · rw [List.map_cons, sweep_cons_of_error e]
      rw [e] at hfirst
      refine List.forall_mem_cons.2 ⟨hfirst, ?_⟩
      rw [List.map_map]
      simpa only [Function.comp_def, List.map_id'] using hlater
    · rw [List.map_cons, sweep_cons_of_ok e]
      rw [e] at hfirst
      exact List.forall_mem_cons.2 ⟨hfirst, ih hlater⟩

/-- A refill that was carried out before a walk changes nothing when it is carried out after it. -/
lemma apply_sweep (hg : g.Textual) (act : Local (Element Unit) Unit) (ts : List (Stocked Unit)) :
    g.apply (sweep ((g.apply ts).map fun t => (t, act))).state =
      (sweep ((g.apply ts).map fun t => (t, act))).state := by
  cases g with
  | keep => rfl
  | dropTexts =>
    apply List.filter_eq_self.2
    apply isElement_sweep
    intro t ht
    exact (List.mem_filter.1 ht).2
  | put us =>
    have htexts : sweep (us.map fun t => (t, act)) = ⟨.ok (), us, []⟩ := sweep_texts act hg
    simp only [Refill.apply, htexts]

/-- Elements side by side are walked once more as each of them is. -/
lemma sweep_again (h : ∀ P : Element Unit, P.whole ∈ ts → Again act P)
    (hok : (sweep (ts.map fun t => (t, act))).result = .ok ()) : ∃ notes,
    sweep ((sweep (ts.map fun t => (t, act))).state.map fun t => (t, act)) =
        ⟨.ok (), (sweep (ts.map fun t => (t, act))).state, notes⟩ ∧
      notes.map Fault.blur = (sweep (ts.map fun t => (t, act))).notes.map Fault.blur := by
  induction ts with
  | nil => exact ⟨[], rfl, rfl⟩
  | cons t ts ih =>
    have hlater := ih fun P hP => h P (List.mem_cons_of_mem _ hP)
    rcases e : onElement act t with ⟨f | _, u, notes⟩
    · rw [List.map_cons, sweep_cons_of_error e] at hok
      cases hok
    · rw [List.map_cons, sweep_cons_of_ok e] at hok ⊢
      obtain ⟨later, hagain, hblur⟩ := hlater hok
      -- the first element is walked again by hypothesis, the others by induction
      have hfirst : ∃ first, onElement act u = ⟨.ok (), u, first⟩ ∧
          first.map Fault.blur = notes.map Fault.blur := by
        cases t with
        | text label content =>
          cases e
          exact ⟨[], rfl, rfl⟩
        | element label head stock children =>
          have hrun : (act ⟨head, stock, children⟩).result = .ok () := congrArg Yield.result e
          obtain ⟨first, hfirst, hblur⟩ := h ⟨head, stock, children⟩ List.mem_cons_self hrun
          have hstate : (act ⟨head, stock, children⟩).state.whole = u := congrArg Yield.state e
          have hnotes : (act ⟨head, stock, children⟩).notes = notes := congrArg Yield.notes e
          rw [hnotes] at hblur
          refine ⟨first, ?_, hblur⟩
          rw [← hstate, onElement_whole, hfirst]
      obtain ⟨first, hfirst, hblur'⟩ := hfirst
      refine ⟨first ++ later, ?_, ?_⟩
      · rw [List.map_cons, sweep_cons_of_ok hfirst, hagain]
      · rw [List.map_append, List.map_append, hblur, hblur']

/-! ## Operators -/

variable {walk : List Nat → Value → Local (Element Unit) Unit} {positions : List Nat}
  {operator : ContentOperator}

/-- Filling in a text puts no elements below an element. -/
lemma keeps_elements_text : Keeps (fun P => P.elements = [])
    (content c walk positions scope operand .text) := by
  have hremove : Keeps (fun P => P.elements = []) removeText := by
    refine Keeps.change fun P hP => ?_
    change (P.children.filter Stocked.isElement).filter Stocked.isElement = []
    rw [show P.children.filter Stocked.isElement = [] from hP]
    rfl
  have hfill (content : String) : Keeps (fun P => P.elements = []) (fillText content) :=
    Keeps.change fun _ _ => rfl
  exact Keeps.guarded hremove (Keeps.bind (Keeps.runText hremove hfill) fun _ => Keeps.pure _)

/-- An operator that copies templates fills an element once more with the same. -/
lemma copying_again {β : Type} {operator : Operator} {take : Local (Element Unit) β}
    {fillIn : β → Local (Element Unit) Unit} {inner? : Option Value} (htakes : Takes take)
    (honly : OnlyAssertions take) (hfillIn : ∀ b, FillsAnyElement (fillIn b))
    (h : (copying operator operand take fillIn P).result = .ok inner?) (us : List (Stocked Unit)) :
    ∃ notes, copying operator operand take fillIn
        ((copying operator operand take fillIn P).state.fill us) =
          ⟨.ok none, (copying operator operand take fillIn P).state, notes⟩ ∧
      notes.map Fault.blur = (copying operator operand take fillIn P).notes.map Fault.blur := by
  obtain ⟨-, b, hP⟩ := copying_eq_ok honly h
  obtain ⟨vs, noted, hall⟩ := copying_of_ok htakes hfillIn hP h
  obtain ⟨notes, hrun, hblur⟩ := hall P hP
  have hagain : take ((take P).state.fill us) = ⟨.ok b, (take P).state.fill us, []⟩ :=
    (htakes P b hP).2.2 _ rfl
  obtain ⟨notes', hrun', hblur'⟩ := hall ((take P).state.fill us) (by rw [hagain])
  rw [hagain] at hrun'
  rw [hrun]
  exact ⟨notes', hrun', hblur'.trans hblur.symm⟩

/-- An operator that makes no copies refills an element once more in the same way. -/
lemma plain_again (hplain : operator.plain = true) (hg : g.Textual) {ts : List (Stocked Unit)}
    (hP : P.children = g.apply ts)
    (h : (content c walk positions scope operand operator P).result = .ok none) : ∃ notes,
    content c walk positions scope operand operator
        ((content c walk positions scope operand operator P).state.fill
          (g.apply (content c walk positions scope operand operator P).state.children)) =
        ⟨.ok none, (content c walk positions scope operand operator P).state, notes⟩ ∧
      notes.map Fault.blur =
        (content c walk positions scope operand operator P).notes.map Fault.blur := by
  obtain ⟨-, r, noted, -, hall⟩ := content_refills hplain h
  have helements : operator = .text → scope.isNull = true ∨ P.elements = [] := by
    rintro rfl
    exact elements_of_text h
  obtain ⟨notes, hrun, hblur⟩ := hall P ⟨rfl, rfl⟩ helements
  have hkept : operator = .text → scope.isNull = true ∨
      (P.fill (g.apply (r.apply P.children))).elements = [] := by
    intro htext
    refine (helements htext).imp id fun hnone => ?_
    subst htext
    have hstate : (content c walk positions scope operand .text P).state.elements = [] :=
      keeps_elements_text P hnone
    rw [hrun] at hstate
    apply List.filter_eq_nil_iff.2
    intro t ht helement
    have hmem : t ∈ (P.fill (r.apply P.children)).elements :=
      List.mem_filter.2 ⟨hg.elements ht helement, helement⟩
    rw [hstate] at hmem
    cases hmem
  obtain ⟨notes', hrun', hblur'⟩ := hall (P.fill (g.apply (r.apply P.children))) ⟨rfl, rfl⟩ hkept
  rw [hrun]
  refine ⟨notes', ?_, hblur'.trans hblur.symm⟩
  have hagain := Refill.apply_again hg r ts
  rw [← hP] at hagain
  refine hrun'.trans ?_
  simp only [Element.fill, hagain]

/-- An operator that leaves nothing to be walked fills an element once more with the same. -/
lemma content_again (hg : g.Textual) {ts : List (Stocked Unit)} (hP : P.children = g.apply ts)
    (h : (content c walk positions scope operand operator P).result = .ok none) : ∃ notes,
    content c walk positions scope operand operator
        ((content c walk positions scope operand operator P).state.fill
          (g.apply (content c walk positions scope operand operator P).state.children)) =
        ⟨.ok none, (content c walk positions scope operand operator P).state, notes⟩ ∧
      notes.map Fault.blur =
        (content c walk positions scope operand operator P).notes.map Fault.blur := by
  cases operator with
  | list ordered => exact copying_again takes_itemTemplate .itemTemplate fillsAnyElement_list h _
  | map ordered => exact copying_again takes_entryTemplates .entryTemplates fillsAnyElement_map h _
  | object =>
    have hignores := IgnoresElement.object c walk positions scope operand
    have hself : g.apply P.children = P.children := by
      rw [hP]
      exact Refill.apply_again hg .keep ts
    rw [(hignores P P).1, hself]
    exact hignores.of_ok h P
  | text => exact plain_again rfl hg hP h
  | html => exact plain_again rfl hg hP h
  | numbering => exact plain_again rfl hg hP h
  | options => exact plain_again rfl hg hP h

/-! ## The content as a whole -/

variable {enter : List Nat → Value → Bool → Local (Element Unit) Unit} {ds : Directives}

/-- An element that is no copy is filled by the operator that it declares. -/
lemma fill_eq : fill c enter positions ds scope false =
    (inner c enter positions scope ds.content? >>=
      descend fun scope => enter positions scope false) := by
  funext P
  unfold fill contentOperator
  cases ds.content? <;> rfl

/-- Walking below an element once more. -/
lemma below_again (hg : g.Textual) {ts : List (Stocked Unit)} (hP : P.children = g.apply ts)
    (h : ∀ Q : Element Unit, Q.whole ∈ P.children → Again act Q)
    (hok : (below act P).result = .ok ()) : ∃ notes,
    g.apply (below act P).state.children = (below act P).state.children ∧
      below act (below act P).state = ⟨.ok (), (below act P).state, notes⟩ ∧
      notes.map Fault.blur = (below act P).notes.map Fault.blur := by
  obtain ⟨notes, hagain, hblur⟩ := sweep_again h hok
  have hbelow (Q : Element Unit) : below act Q =
      ⟨(sweep (Q.children.map fun t => (t, act))).result,
        Q.fill (sweep (Q.children.map fun t => (t, act))).state,
        (sweep (Q.children.map fun t => (t, act))).notes⟩ := rfl
  refine ⟨notes, ?_, ?_, hblur⟩
  · rw [hbelow P, hP]
    exact apply_sweep hg act ts
  · rw [hbelow P, hbelow (P.fill _)]
    simp only [Element.fill] at hagain ⊢
    rw [hagain]

/-- The content of an element is filled once more with the same. -/
lemma fill_again (hg : g.Textual) {ts : List (Stocked Unit)} (hP : P.children = g.apply ts)
    (h : ∀ inner (Q : Element Unit), Q.whole ∈ P.children → Again (enter positions inner false) Q)
    (hok : (fill c enter positions ds scope false P).result = .ok ()) : ∃ notes,
    fill c enter positions ds scope false
        ((fill c enter positions ds scope false P).state.fill
          (g.apply (fill c enter positions ds scope false P).state.children)) =
        ⟨.ok (), (fill c enter positions ds scope false P).state, notes⟩ ∧
      notes.map Fault.blur =
        (fill c enter positions ds scope false P).notes.map Fault.blur := by
  rw [fill_eq] at hok ⊢
  cases hcontent : ds.content? with
  | none =>
    rw [hcontent] at hok
    have hinner (Q : Element Unit) : (inner c enter positions scope none >>=
        descend fun scope => enter positions scope false) Q =
          below (enter positions scope false) Q := rfl
    simp only [hinner] at hok ⊢
    obtain ⟨notes, hkeep, hagain, hblur⟩ := below_again hg hP (h scope) hok
    rw [hkeep]
    exact ⟨notes, hagain, hblur⟩
  | some declared =>
    obtain ⟨operator, operand⟩ := declared
    rw [hcontent] at hok
    let walk := fun inside value => enter inside value true
    have hfill : (inner c enter positions scope (some (operator, operand)) >>=
        descend fun scope => enter positions scope false) =
          (content c walk positions scope operand operator >>=
            descend fun scope => enter positions scope false) := rfl
    rw [hfill] at hok ⊢
    obtain ⟨inner?, hinner, hrest, hstate, hnotes⟩ := bind_eq_ok hok
    rw [hstate, hnotes]
    cases inner? with
    | none =>
      obtain ⟨notes, hagain, hblur⟩ := content_again hg hP hinner
      refine ⟨notes ++ [], ?_, by rw [List.map_append, List.map_append, hblur]; rfl⟩
      refine (bind_of_ok (f := descend fun scope => enter positions scope false) hagain).trans ?_
      rfl
    | some inner =>
      -- the element is as it was, so the elements below it are those it had before
      obtain ⟨rfl, hsame⟩ := content_some operator hinner
      have hignores := IgnoresElement.object c walk positions scope operand
      rw [hsame] at hrest ⊢
      obtain ⟨later, hkeep, hagain, hblur⟩ := below_again hg hP (h inner) hrest
      have hdescend : descend (fun scope => enter positions scope false) (some inner) =
          below (enter positions inner false) := rfl
      rw [hdescend, hkeep]
      obtain ⟨first, hfirst, hblur'⟩ :=
        hignores.of_ok hinner (below (enter positions inner false) P).state
      refine ⟨first ++ later, ?_, by rw [List.map_append, List.map_append, hblur, hblur']⟩
      refine (bind_of_ok (f := descend fun scope => enter positions scope false) hfirst).trans ?_
      rw [hdescend, hagain]

end Local

end TreeTemplate
