import TreeTemplate.Proofs.Attributes.Effects
import TreeTemplate.Proofs.Content.Refill

/-!
# Filling an element without copies

An operator that makes no copies refills the element, and how it does depends on the scope and on
what the element looks like to the operators. So all elements that look the same are refilled in the
same way, and a second time in the same way as the first time.

Main statements:

* `Refills.guarded` — under the policy for faults;
* `content_refills` — the operators that make no copies.
-/

namespace TreeTemplate

variable {α β : Type} {p : Refill → Prop} {K : Element Unit → Prop} {P Q : Element Unit}
    {operator : Operator}
  {operand : String} {c : Setting} {scope : Value}

/-- An action refills all elements of a kind in the same way, or stops at all of them. The way is
one of the given ones, save where an error still has to be met or a formatter fails. -/
inductive Refills (p : Refill → Prop) (K : Element Unit → Prop)
    (act : Local (Element Unit) α) : Prop
  | yields (r : Refill) (hr : p r) (a : α)
    (h : ∀ Q, K Q → act Q = ⟨.ok a, Q.fill (r.apply Q.children), []⟩)
  | lacks (r : Refill) (cause : Cause)
    (hr : cause.faultClass = .other → p r ∨ ∃ message, cause = .custom message)
    (h : ∀ Q, K Q → act Q = ⟨.error ⟨cause, none⟩, Q.fill (r.apply Q.children), []⟩)
  | stops (h : ∀ Q, K Q → ∃ f, (act Q).result = .error f ∧ f.faultClass = .assertion)

/-- Fills an element with the text at a path, shown as on a tree that looks like it. -/
def Local.fillShown (c : Setting) (t : Tree Unit) (scope : Value) (operand : String) :
    Local (Element Unit) Unit := do
  match ← Local.check (Path.read c.model scope operand) with
  | .null => Local.removeText
  | .string "" => Local.removeText
  | value => do
    let shown ← Local.check (c.display t value)
    Local.fillText shown

/-- Fills an element with an option for each item at a path. -/
def Local.fillOptions (c : Setting) (scope : Value) (operand : String) :
    Local (Element Unit) Unit := do
  if scope.isNull then Local.clear
  else
    match ← Local.check (Path.read c.model scope operand) with
    | .null => Local.clear
    | .list items => do
      Local.clear
      items.forM Local.appendOption
    | value => Local.refuse (.optionsKind value.kind)

namespace Refills

/-- Removing texts refills every element in the same way. -/
lemma removeText (hp : p .dropTexts) : Refills p K Local.removeText :=
  yields .dropTexts hp () fun _ _ => rfl

/-- Putting trees below an element refills every element in the same way. -/
lemma fill {us : List (Stocked Unit)} (hp : p (.put us)) :
    Refills p K (Local.change (Element.fill us)) :=
  yields (.put us) hp () fun _ _ => rfl

/-- Stopping for a cause refills no element. -/
lemma refuse {cause : Cause}
    (hr : cause.faultClass = .other → p .keep ∨ ∃ message, cause = .custom message) :
    Refills p K (Local.refuse cause : Local (Element Unit) α) :=
  lacks .keep cause hr fun _ _ => rfl

/-- After a check an element is refilled as it is after what was found, or not at all. -/
lemma check_bind {e : Except Cause β} {f : β → Local (Element Unit) α}
    (he : ∀ cause, e = .error cause → cause.faultClass = .other →
      p .keep ∨ ∃ message, cause = .custom message)
    (h : ∀ b, Refills p K (f b)) : Refills p K (Local.check e >>= f) := by
  cases e with
  | ok b => exact h b
  | error cause => exact refuse (he cause rfl)

/-- Reading from the model gives up no branch. -/
lemma read_bind {f : Value → Local (Element Unit) α} (h : ∀ value, Refills p K (f value)) :
    Refills p K (Local.check (Path.read c.model scope operand) >>= f) :=
  check_bind (fun _ hread hclass => by
    rcases Path.read_class hread with h | h <;> simp [h] at hclass)
    h

/-- After an operand was read an element is refilled as it is after what was read, or not at all. -/
lemma checkOperand_bind {e : Except OperandError β} {f : β → Local (Element Unit) α}
    (h : ∀ b, Refills p K (f b)) : Refills p K (Local.checkOperand e >>= f) := by
  cases e with
  | ok b => exact h b
  | error error => exact refuse nofun

/-- What an action does to each element of a kind it does to all of them. -/
lemma congr {act act' : Local (Element Unit) α} (h : Refills p K act)
    (hact : ∀ Q, K Q → act' Q = act Q) : Refills p K act' := by
  cases h with
  | yields r hr a h => exact yields r hr a fun Q hQ => (hact Q hQ).trans (h Q hQ)
  | lacks r cause hr h => exact lacks r cause hr fun Q hQ => (hact Q hQ).trans (h Q hQ)
  | stops h => exact stops fun Q hQ => by rw [hact Q hQ]; exact h Q hQ

/-- The answer does not matter for how an element is refilled. -/
lemma bind_pure {act : Local (Element Unit) α} (h : Refills p K act) (b : β) :
    Refills p K (act >>= fun _ => Pure.pure b) := by
  cases h with
  | yields r hr a h =>
    refine yields r hr b fun Q hQ => ?_
    rw [Local.bind_of_ok (h Q hQ)]
    rfl
  | lacks r cause hr h =>
    refine lacks r cause hr fun Q hQ => ?_
    rw [Local.bind_of_error (h Q hQ)]
  | stops h =>
    refine stops fun Q hQ => ?_
    obtain ⟨f, hf, hclass⟩ := h Q hQ
    rcases e : act Q with ⟨g | a, R, notes⟩
    · rw [e] at hf
      cases hf
      exact ⟨f, by rw [Local.bind_of_error e], hclass⟩
    · rw [e] at hf
      cases hf

/-- Under the policy for faults, an operator that does not stop the walk refills all elements of a
kind in the same way, which is one of the given ways unless a formatter fails. -/
lemma guarded {undo : Local (Element Unit) Unit} {lacking abandoned a : α}
    {act : Local (Element Unit) α} (h : Refills p K act) {u : Refill}
    (hu : ∀ r : Refill, p (r.andThen u))
    (hundo : ∀ Q, undo Q = ⟨.ok (), Q.fill (u.apply Q.children), []⟩) (hP : K P)
    (hok : (Local.guarded operator operand undo lacking abandoned act P).result = .ok a) :
    ∃ (r : Refill) (noted : List Fault), ((∀ f ∈ noted, f.Formatted) → p r) ∧
      ∀ Q, K Q → ∃ notes, Local.guarded operator operand undo lacking abandoned act Q =
        ⟨.ok a, Q.fill (r.apply Q.children), notes⟩ ∧ notes.map Fault.blur = noted := by
  cases h with
  | yields r hr b h =>
    rw [Local.guarded_of_ok (h P hP)] at hok
    cases hok
    exact ⟨r, [], fun _ => hr, fun Q hQ => ⟨[], Local.guarded_of_ok (h Q hQ), rfl⟩⟩
  | lacks r cause hr h =>
    cases hclass : cause.faultClass with
    | assertion =>
      exact absurd hok (Local.guarded_assertion (congrArg Yield.result (h P hP)) hclass a)
    | other =>
      -- the branch is given up, and what the action did stays done
      rw [Local.guarded_of_other (h P hP) hclass] at hok
      cases hok
      refine ⟨r, [⟨cause, some ⟨operator, "", operand⟩⟩], fun hformatted => ?_,
        fun Q hQ => ⟨_, Local.guarded_of_other (h Q hQ) hclass, rfl⟩⟩
      rcases hr hclass with hkeep | ⟨message, hcustom⟩
      · exact hkeep
      · exact absurd hcustom (hformatted _ List.mem_cons_self message)
    | content =>
      have hundone (Q : Element Unit) : undo (Q.fill (r.apply Q.children)) =
          ⟨.ok (), Q.fill ((r.andThen u).apply Q.children), []⟩ := by
        rw [hundo, Refill.apply_andThen]
        rfl
      rw [Local.guarded_of_lacking (h P hP) hclass (hundone P)] at hok
      cases hok
      exact ⟨r.andThen u, [⟨cause, some ⟨operator, "", operand⟩⟩], fun _ => hu r,
        fun Q hQ => ⟨_, Local.guarded_of_lacking (h Q hQ) hclass (hundone Q), rfl⟩⟩
  | stops h =>
    obtain ⟨f, hf, hclass⟩ := h P hP
    exact absurd hok (Local.guarded_assertion hf hclass a)

/-! ## Operators that make no copies -/

/-- Elements that look the same are filled with the same text. -/
lemma runText (P : Element Unit) : Refills (· ≠ .keep)
    (fun Q => P.ReadsLike c.engine.dialect Q ∧ (scope.isNull = true ∨ Q.elements = []))
    (Local.runText c scope operand) := by
  unfold Local.runText
  cases hnull : scope.isNull with
  | true =>
    rw [if_pos rfl]
    exact removeText (by simp)
  | false =>
    have hact : Refills (· ≠ .keep) (fun Q => P.ReadsLike c.engine.dialect Q ∧
        (false = true ∨ Q.elements = [])) (Local.fillShown c P.shell scope operand) := by
      refine read_bind fun value => ?_
      split
      · exact removeText (by simp)
      · exact removeText (by simp)
      · refine check_bind (fun cause hshown hclass => .inr ?_) fun shown => fill (by simp)
        refine (Setting.display_class hshown).resolve_left fun hassertion => ?_
        rw [hclass] at hassertion
        cases hassertion
    refine hact.congr fun Q hQ => ?_
    obtain ⟨hreads, helements⟩ := hQ
    have hnone : Q.elements = [] := helements.resolve_left (by simp)
    rw [if_neg (by simp), Local.look_bind]
    simp only [hnone, List.isEmpty_nil, Bool.not_true, Bool.false_eq_true, if_false,
      hreads.display]
    rfl

/-- Filling in markup replaces what was below every element. -/
lemma fillMarkup (markup : String) : Refills Refill.Replaces K (Local.fillMarkup markup) := by
  unfold Local.fillMarkup
  split
  · exact fill trivial
  · exact lacks (.put []) _ (fun _ => .inl trivial) fun _ _ => rfl

/-- Filling in markup that is read from the model replaces what was below every element. -/
lemma runHtml : Refills Refill.Replaces K (Local.runHtml c scope operand) := by
  unfold Local.runHtml
  split
  · exact fill trivial
  · refine read_bind fun value => ?_
    split
    · exact fill trivial
    · exact fillMarkup _
    · exact refuse nofun

/-- Filling in a label refills every element in the same way. -/
lemma runNumbering (positions : List Nat) :
    Refills (fun _ => True) K (Local.runNumbering positions operand) :=
  checkOperand_bind fun _ => check_bind (fun _ _ _ => .inl trivial) fun _ => fill trivial

/-- The options for some items, or for those before an item that has none. -/
lemma forM_appendOption (items : List Value) : ∃ us,
    (∀ (Q : Element Unit) ts, (items.forM Local.appendOption) (Q.fill ts) =
      ⟨.ok (), Q.fill (ts ++ us), []⟩) ∨
    ∃ cause, ∀ (Q : Element Unit) ts, (items.forM Local.appendOption) (Q.fill ts) =
      ⟨.error ⟨cause, none⟩, Q.fill (ts ++ us), []⟩ := by
  induction items with
  | nil => exact ⟨[], .inl fun Q ts => by rw [List.append_nil]; rfl⟩
  | cons item items ih =>
    have hcons : (item :: items).forM Local.appendOption =
        (Local.appendOption item >>= fun _ => items.forM Local.appendOption) := rfl
    rw [hcons]
    cases htext : item.text? with
    | none =>
      refine ⟨[], .inr ⟨.optionKind item.kind, fun Q ts => ?_⟩⟩
      have hfirst : Local.appendOption item = Local.refuse (.optionKind item.kind) := by
        simp only [Local.appendOption, htext]
      rw [hfirst, List.append_nil]
      rfl
    | some shown =>
      let option : Stocked Unit :=
        .element () ⟨"option", [("value", shown)], false⟩ [] [.text () shown]
      have hfirst (Q : Element Unit) (ts : List (Stocked Unit)) :
          Local.appendOption item (Q.fill ts) = ⟨.ok (), Q.fill (ts ++ [option]), []⟩ := by
        simp only [Local.appendOption, htext]
        rfl
      obtain ⟨us, hall | ⟨cause, hall⟩⟩ := ih
      · refine ⟨option :: us, .inl fun Q ts => ?_⟩
        rw [Local.bind_of_ok (hfirst Q ts), hall, List.append_assoc]
        rfl
      · refine ⟨option :: us, .inr ⟨cause, fun Q ts => ?_⟩⟩
        rw [Local.bind_of_ok (hfirst Q ts), hall, List.append_assoc]
        rfl

/-- Filling in options replaces what was below every element. -/
lemma appendOptions (items : List Value) :
    Refills Refill.Replaces K (Local.clear >>= fun _ => items.forM Local.appendOption) := by
  have hclear (Q : Element Unit) : Local.clear Q = ⟨.ok (), Q.fill [], []⟩ := rfl
  obtain ⟨us, hall | ⟨cause, hall⟩⟩ := forM_appendOption items
  · refine yields (.put us) trivial () fun Q _ => ?_
    rw [Local.bind_of_ok (hclear Q), hall]
    rfl
  · refine lacks (.put us) cause (fun _ => .inl trivial) fun Q _ => ?_
    rw [Local.bind_of_ok (hclear Q), hall]
    rfl

/-- Elements that look the same are filled with the same options. -/
lemma runOptions (P : Element Unit) : Refills Refill.Replaces
    (fun Q => P.ReadsLike c.engine.dialect Q) (Local.runOptions c scope operand) := by
  unfold Local.runOptions
  cases hselect : P.shell.hasTag ["select"] with
  | false =>
    refine stops fun Q hreads => ?_
    rw [Local.look_bind, hreads.hasTag, hselect]
    exact ⟨_, rfl, rfl⟩
  | true =>
    have hact : Refills Refill.Replaces (fun Q => P.ReadsLike c.engine.dialect Q)
        (Local.fillOptions c scope operand) := by
      unfold Local.fillOptions
      split
      · exact fill trivial
      · refine read_bind fun value => ?_
        split
        · exact fill trivial
        · exact appendOptions _
        · refine refuse fun h => ?_
          cases h
    refine hact.congr fun Q hreads => ?_
    rw [Local.look_bind, hreads.hasTag, hselect]
    rfl

end Refills

/-- Whether an operator fills an element without copies, and leaves nothing to be walked. -/
def ContentOperator.plain : ContentOperator → Bool
  | .text | .html | .numbering | .options => true
  | .object | .list _ | .map _ => false

/-- Whether a refill leaves nothing that an operator filled in before. -/
def ContentOperator.Renews : ContentOperator → Refill → Prop
  | .text, r => r ≠ .keep
  | .html, r | .options, r => r.Replaces
  | _, _ => True

/-- A text around elements stops the walk. -/
lemma Local.elements_of_text {P : Element Unit}
    {walk : List Nat → Value → Local (Element Unit) Unit}
    {positions : List Nat} {inner? : Option Value}
    (h : (content c walk positions scope operand .text P).result = .ok inner?) :
    scope.isNull = true ∨ P.elements = [] := by
  cases hnull : scope.isNull with
  | true => exact .inl rfl
  | false =>
    refine .inr ?_
    cases helements : P.elements with
    | nil => rfl
    | cons t ts =>
      have hstop : (run c walk positions scope operand .text P).result =
          .error ⟨.textAroundElements P.shell.describe, none⟩ := by
        have hrun : runText c scope operand P =
            ⟨.error ⟨.textAroundElements P.shell.describe, none⟩, P, []⟩ := by
          unfold runText
          rw [hnull, if_neg (by simp), look_bind, helements]
          rfl
        unfold run
        dsimp only
        rw [bind_of_error hrun]
      exact absurd h (guarded_assertion hstop rfl inner?)

/-- Elements that look the same are filled in the same way by an operator that makes no copies.
Unless a formatter fails, that leaves nothing of what it filled in before. -/
lemma content_refills {P : Element Unit} {walk : List Nat → Value → Local (Element Unit) Unit}
    {positions : List Nat} {operator : ContentOperator} {inner? : Option Value}
    (hplain : operator.plain = true)
    (h : (Local.content c walk positions scope operand operator P).result = .ok inner?) :
    inner? = none ∧ ∃ (r : Refill) (noted : List Fault),
      ((∀ f ∈ noted, f.Formatted) → operator.Renews r) ∧
      ∀ Q, P.ReadsLike c.engine.dialect Q →
        (operator = .text → scope.isNull = true ∨ Q.elements = []) → ∃ notes,
          Local.content c walk positions scope operand operator Q =
            ⟨.ok none, Q.fill (r.apply Q.children), notes⟩ ∧ notes.map Fault.blur = noted := by
  have hself : P.ReadsLike c.engine.dialect P := ⟨rfl, rfl⟩
  cases operator with
  | text =>
    cases Local.guarded_ok Local.bind_pure_ok h
    obtain ⟨r, noted, hrenews, hall⟩ := ((Refills.runText P).bind_pure none).guarded
      (u := .dropTexts) (fun r => by cases r <;> simp [Refill.andThen]) (fun _ => rfl)
      ⟨hself, Local.elements_of_text h⟩ h
    exact ⟨rfl, r, noted, hrenews, fun Q hreads helements => hall Q ⟨hreads, helements rfl⟩⟩
  | html =>
    cases Local.guarded_ok Local.bind_pure_ok h
    obtain ⟨r, noted, hrenews, hall⟩ := (Refills.runHtml.bind_pure none).guarded
      (u := .put []) (fun _ => trivial) (fun _ => rfl) (K := fun _ => True) trivial h
    exact ⟨rfl, r, noted, hrenews, fun Q _ _ => hall Q trivial⟩
  | numbering =>
    cases Local.guarded_ok Local.bind_pure_ok h
    obtain ⟨r, noted, hrenews, hall⟩ := ((Refills.runNumbering positions).bind_pure none).guarded
      (u := .dropTexts) (fun _ => trivial) (fun _ => rfl) (K := fun _ => True) trivial h
    exact ⟨rfl, r, noted, hrenews, fun Q _ _ => hall Q trivial⟩
  | options =>
    cases Local.guarded_ok Local.bind_pure_ok h
    obtain ⟨r, noted, hrenews, hall⟩ := ((Refills.runOptions P).bind_pure none).guarded
      (u := .put []) (fun _ => trivial) (fun _ => rfl) hself h
    exact ⟨rfl, r, noted, hrenews, fun Q hreads _ => hall Q hreads⟩
  | object => cases hplain
  | list => cases hplain
  | map => cases hplain

end TreeTemplate
