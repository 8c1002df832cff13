import TreeTemplate.Proofs.Content.Filling

/-!
# Filling an element with copies

A list and a map first see to it that their templates are in stock, and then fill the element with
copies of these. What they fill it with does not depend on what was below the element before, once
the templates are there.

Main statements:

* `takes_itemTemplate`, `takes_entryTemplates` — templates that were taken stay in stock;
* `copying_of_ok` — what an element is filled with from templates.
-/

namespace TreeTemplate

variable {β : Type} {P Q : Element Unit} {operator : Operator} {operand : String} {c : Setting}
  {scope : Value}

namespace Local

/-- An action takes templates into stock, and finds them there whenever it is run again. -/
def Takes (take : Local (Element Unit) β) : Prop :=
  ∀ Q b, (take Q).result = .ok b → (take Q).notes = [] ∧ (take Q).state.head = Q.head ∧
    ∀ R : Element Unit, R.stock = (take Q).state.stock → take R = ⟨.ok b, R, []⟩

/-- Templates of items that were taken stay in stock. -/
lemma takes_itemTemplate : Takes itemTemplate := by
  intro Q template h
  obtain ⟨head, stock, children⟩ := Q
  unfold itemTemplate at h ⊢
  cases stock with
  | nil =>
    dsimp only at h ⊢
    cases helements : (⟨head, [], children⟩ : Element Unit).elements with
    | nil =>
      rw [helements] at h
      cases h
    | cons t ts =>
      rw [helements] at h
      cases h
      refine ⟨rfl, rfl, fun R hR => ?_⟩
      rw [show R.stock = [template] from hR]
  | cons t ts =>
    cases ts with
    | nil =>
      cases h
      refine ⟨rfl, rfl, fun R hR => ?_⟩
      rw [show R.stock = [template] from hR]
    | cons => cases h

/-- Templates of entries that were taken stay in stock. -/
lemma takes_entryTemplates : Takes entryTemplates := by
  intro Q templates h
  obtain ⟨head, stock, children⟩ := Q
  unfold entryTemplates at h ⊢
  cases stock with
  | nil =>
    dsimp only at h ⊢
    cases helements : (⟨head, [], children⟩ : Element Unit).elements with
    | nil =>
      rw [helements] at h
      cases h
    | cons key ts =>
      rw [helements] at h
      cases ts with
      | nil => cases h
      | cons value ts =>
        cases h
        refine ⟨rfl, rfl, fun R hR => ?_⟩
        rw [show R.stock = [key, value] from hR]
  | cons key ts =>
    cases ts with
    | nil => cases h
    | cons value ts =>
      cases h
      refine ⟨rfl, rfl, fun R hR => ?_⟩
      rw [show R.stock = key :: value :: ts from hR]

/-- An action fills an empty element without a look at it. -/
def FillsAnyElement (act : Local (Element Unit) Unit) : Prop :=
  ∃ result us notes, ∀ Q : Element Unit, act (Q.fill []) = ⟨result, Q.fill us, notes⟩

namespace FillsAnyElement

/-- Doing nothing fills any element in the same way. -/
lemma pure : FillsAnyElement (Pure.pure ()) := ⟨.ok (), [], [], fun _ => rfl⟩

/-- After a check any element is filled in the same way. -/
lemma check_bind {e : Except Cause β} {f : β → Local (Element Unit) Unit}
    (h : ∀ b, FillsAnyElement (f b)) : FillsAnyElement (Local.check e >>= f) := by
  cases e with
  | ok b => exact h b
  | error cause => exact ⟨.error ⟨cause, none⟩, [], [], fun _ => rfl⟩

/-- What is done to the children of an empty element fills any element in the same way. -/
lemma onChildren (act : Local (List (Stocked Unit)) Unit) : FillsAnyElement
    (Local.onChildren act) :=
  ⟨(act []).result, (act []).state, (act []).notes, fun _ => rfl⟩

end FillsAnyElement

/-- An operator that takes templates and fills the element from them, under the policy for
faults. -/
def copying (operator : Operator) (operand : String) (take : Local (Element Unit) β)
    (fillIn : β → Local (Element Unit) Unit) : Local (Element Unit) (Option Value) :=
  guarded operator operand (take >>= fun _ => clear) none none
    ((take >>= fun b => clear >>= fun _ => fillIn b) >>= fun _ => pure none)

variable {take : Local (Element Unit) β} {fillIn : β → Local (Element Unit) Unit}
    {inner? : Option Value}

/-- Taking templates that succeeds notes nothing. -/
lemma Takes.of_ok (htakes : Takes take) {b : β} (hQ : (take Q).result = .ok b) :
    take Q = ⟨.ok b, (take Q).state, []⟩ := by
  obtain ⟨hnotes, -, -⟩ := htakes Q b hQ
  rcases e : take Q with ⟨result, R, notes⟩
  rw [e] at hQ hnotes
  cases hQ
  cases hnotes
  rfl

/-- An element whose templates are there is filled from them. -/
lemma Takes.filled (htakes : Takes take) {b : β} (hQ : (take Q).result = .ok b)
    {result : Except Fault Unit} {us : List (Stocked Unit)} {notes : List Fault}
    (hall : ∀ R : Element Unit, fillIn b (R.fill []) = ⟨result, R.fill us, notes⟩) :
    (take >>= fun b => clear >>= fun _ => fillIn b) Q =
      ⟨result, (take Q).state.fill us, notes⟩ := by
  have hclear (R : Element Unit) : clear R = ⟨.ok (), R.fill [], []⟩ := rfl
  rw [bind_of_ok (htakes.of_ok hQ), bind_of_ok (hclear _), hall]
  rfl

/-- The templates stay in stock while what the element is filled with is removed. -/
lemma Takes.undo (htakes : Takes take) {b : β} (hQ : (take Q).result = .ok b)
    (us : List (Stocked Unit)) : (take >>= fun _ => clear) ((take Q).state.fill us) =
      ⟨.ok (), (take Q).state.fill [], []⟩ := by
  have hagain : take ((take Q).state.fill us) = ⟨.ok b, (take Q).state.fill us, []⟩ :=
    (htakes Q b hQ).2.2 _ rfl
  rw [bind_of_ok hagain]
  rfl

/-- An operator that takes templates and does not stop the walk has them. -/
lemma copying_eq_ok (honly : OnlyAssertions take)
    (h : (copying operator operand take fillIn P).result = .ok inner?) :
    inner? = none ∧ ∃ b, (take P).result = .ok b := by
  refine ⟨guarded_ok bind_pure_ok h, ?_⟩
  cases hP : (take P).result with
  | ok b => exact ⟨b, rfl⟩
  | error f =>
    have hstop : (((take >>= fun b => clear >>= fun _ => fillIn b) >>= fun _ =>
        (Pure.pure none : Local (Element Unit) (Option Value))) P).result = .error f := by
      rcases e : take P with ⟨result, R, notes⟩
      rw [e] at hP
      cases hP
      rw [bind_of_error (bind_of_error e)]
    exact absurd h (guarded_assertion hstop (honly hP) inner?)

/-- What an element is filled with from templates does not depend on what was below it. -/
lemma copying_of_ok (htakes : Takes take) (hfillIn : ∀ b, FillsAnyElement (fillIn b)) {b : β}
    (hP : (take P).result = .ok b)
    (h : (copying operator operand take fillIn P).result = .ok inner?) :
    ∃ us noted, ∀ Q, (take Q).result = .ok b → ∃ notes,
      copying operator operand take fillIn Q = ⟨.ok none, (take Q).state.fill us, notes⟩ ∧
        notes.map Fault.blur = noted := by
  obtain ⟨result, us, notes, hall⟩ := hfillIn b
  have hrun (Q : Element Unit) (hQ : (take Q).result = .ok b) := htakes.filled hQ hall
  cases result with
  | ok _ =>
    refine ⟨us, notes.map Fault.blur, fun Q hQ => ⟨notes ++ [], ?_, by rw [List.append_nil]⟩⟩
    exact guarded_of_ok (bind_of_ok (hrun Q hQ))
  | error f =>
    have hstop (Q : Element Unit) (hQ : (take Q).result = .ok b) :
        ((take >>= fun b => clear >>= fun _ => fillIn b) >>= fun _ =>
          (Pure.pure none : Local (Element Unit) (Option Value))) Q =
            ⟨.error f, (take Q).state.fill us, notes⟩ := bind_of_error (hrun Q hQ)
    have hblur (Q : Element Unit) (hQ : (take Q).result = .ok b) :
        (notes ++ [f.inOperator ⟨operator, ((take Q).state.fill us).shell.describe, operand⟩]).map
            Fault.blur =
          notes.map Fault.blur ++ [(f.inOperator ⟨operator, "", operand⟩).blur] := by
      rw [List.map_append, List.map_singleton, Fault.blur_inOperator rfl _ _ "" _]
    cases hf : f.faultClass with
    | assertion => exact absurd h (guarded_assertion (congrArg Yield.result (hstop P hP)) hf inner?)
    | other => exact ⟨us, _, fun Q hQ => ⟨_, guarded_of_other (hstop Q hQ) hf, hblur Q hQ⟩⟩
    | content =>
      exact ⟨[], _, fun Q hQ =>
        ⟨_, guarded_of_lacking (hstop Q hQ) hf (htakes.undo hQ us), hblur Q hQ⟩⟩

/-- What becomes of an element in any case: where there are templates they are in stock, and the
element is empty or filled from them. -/
lemma Keeps.copying {R : Element Unit → Prop} (htakes : Takes take) (honly : OnlyAssertions take)
    (hfillIn : ∀ b, FillsAnyElement (fillIn b)) (htake : Keeps R take)
    (hfill : ∀ P b us, R P → (take P).result = .ok b →
      us = [] ∨ (∃ Q : Element Unit, (fillIn b (Q.fill [])).state.children = us) → R
      ((take P).state.fill us)) :
    Keeps R (Local.copying operator operand take fillIn) := by
  intro P hP
  cases hok : (take P).result with
  | error f =>
    have hrun : ((take >>= fun b => clear >>= fun _ => fillIn b) >>= fun _ =>
        (Pure.pure none : Local (Element Unit) (Option Value))) P =
          ⟨.error f, (take P).state, (take P).notes⟩ := by
      rcases e : take P with ⟨result, R, notes⟩
      rw [e] at hok
      cases hok
      rw [bind_of_error (bind_of_error e)]
    rw [Local.copying, guarded_of_assertion hrun (honly hok)]
    exact htake P hP
  | ok b =>
    obtain ⟨result, us, notes, hall⟩ := hfillIn b
    have hrun := htakes.filled hok hall
    have hus : R ((take P).state.fill us) :=
      hfill P b us hP hok (.inr ⟨P, by rw [hall]; rfl⟩)
    have hempty : R ((take P).state.fill []) := hfill P b [] hP hok (.inl rfl)
    cases result with
    | ok _ =>
      rw [Local.copying, guarded_of_ok (bind_of_ok hrun)]
      exact hus
    | error f =>
      cases hf : f.faultClass with
      | content =>
        rw [Local.copying, guarded_of_lacking (bind_of_error hrun) hf (htakes.undo hok us)]
        exact hempty
      | assertion =>
        rw [Local.copying, guarded_of_assertion (bind_of_error hrun) hf]
        exact hus
      | other =>
        rw [Local.copying, guarded_of_other (bind_of_error hrun) hf]
        exact hus

/-! ## Lists and maps -/

variable {walk : List Nat → Value → Local (Element Unit) Unit} {positions : List Nat}
  {ordered : Bool}

/-- A list takes its template and fills the element with copies of it. -/
lemma content_list : content c walk positions scope operand (.list ordered) =
    copying (.content (.list ordered)) operand itemTemplate fun template =>
      if scope.isNull then pure ()
      else check (Path.readItems c.model scope operand) >>= fun items =>
        onChildren (expand positions ordered walk 1 (items.map fun item => [(template, item)])) :=
  rfl

/-- A map takes its two templates and fills the element with copies of them. -/
lemma content_map : content c walk positions scope operand (.map ordered) =
    copying (.content (.map ordered)) operand entryTemplates fun templates =>
      if scope.isNull then pure ()
      else check (Path.readEntries c.model scope operand) >>= fun entries =>
        onChildren (expand positions ordered walk 1
          (entries.map fun entry => [(templates.1, .string entry.1), (templates.2, entry.2)])) :=
  rfl

/-- The copies of a list fill any element in the same way. -/
lemma fillsAnyElement_list (template : Stocked Unit) :
    FillsAnyElement (if scope.isNull then pure ()
      else check (Path.readItems c.model scope operand) >>= fun items =>
        onChildren (expand positions ordered walk 1
          (items.map fun item => [(template, item)]))) := by
  split
  · exact FillsAnyElement.pure
  · exact FillsAnyElement.check_bind fun items => FillsAnyElement.onChildren _

/-- The copies of a map fill any element in the same way. -/
lemma fillsAnyElement_map (templates : Stocked Unit × Stocked Unit) :
    FillsAnyElement (if scope.isNull then pure ()
      else check (Path.readEntries c.model scope operand) >>= fun entries =>
        onChildren (expand positions ordered walk 1 (entries.map fun entry =>
          [(templates.1, .string entry.1), (templates.2, entry.2)]))) := by
  split
  · exact FillsAnyElement.pure
  · exact FillsAnyElement.check_bind fun entries => FillsAnyElement.onChildren _

/-- What fills an element leaves its head as it is. -/
lemma keeps_head_content (head : Head) (operator : ContentOperator) :
    Keeps (fun P => P.head = head) (content c walk positions scope operand operator) := by
  have hclear : Keeps (fun P => P.head = head) clear := Keeps.change fun _ h => h
  have hremove : Keeps (fun P => P.head = head) removeText := Keeps.change fun _ h => h
  have hfill (content : String) : Keeps (fun P => P.head = head) (fillText content) :=
    Keeps.change fun _ h => h
  cases operator with
  | text => exact .guarded hremove (.bind (.runText hremove hfill) fun _ => .pure _)
  | html => exact .guarded hclear (.bind (.runHtml hclear fun _ _ h => h) fun _ => .pure _)
  | object => exact .guarded (.pure ()) (.bind .runObject fun _ => .pure _)
  | numbering => exact .guarded hremove (.bind (.runNumbering hfill) fun _ => .pure _)
  | options =>
    refine .guarded hclear (.bind (.runOptions hclear fun item => ?_) fun _ => .pure _)
    unfold appendOption
    split
    · exact .refuse _
    · exact .change fun _ h => h
  | list ordered =>
    have htake : Keeps (fun P => P.head = head) itemTemplate := by
      intro P hP
      unfold itemTemplate
      split
      · exact hP
      · exact hP
      · split <;> exact hP
    exact .copying takes_itemTemplate .itemTemplate fillsAnyElement_list htake
      fun P b us hP hok _ => (takes_itemTemplate P b hok).2.1.trans hP
  | map ordered =>
    have htake : Keeps (fun P => P.head = head) entryTemplates := by
      intro P hP
      unfold entryTemplates
      split
      · exact hP
      · exact hP
      · split <;> exact hP
    exact .copying takes_entryTemplates .entryTemplates fillsAnyElement_map htake
      fun P b us hP hok _ => (takes_entryTemplates P b hok).2.1.trans hP

end Local

end TreeTemplate
