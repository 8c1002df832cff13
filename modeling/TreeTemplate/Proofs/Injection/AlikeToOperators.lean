import TreeTemplate.Proofs.Content.Again
import TreeTemplate.Proofs.Follow.Servings
import TreeTemplate.Proofs.Injection.Lacking
import TreeTemplate.Proofs.Local.Matching

/-!
# Elements that are alike to operators

Two elements are alike to operators when they look the same to them and have the same templates and
the same nodes below them. An operator that reads one path does the same to both when the two paths
give the same, and what it does for a null value or under a null scope is to vacate the element.
Where the model lacks what it reads, it vacates the element too and notes that.

Main statements:

* `Matches.content` — elements for which the same is read;
* `content_of_null`, `content_of_lacking` — elements that are vacated.
-/

namespace TreeTemplate

/-- Two elements look the same to the operators and have the same templates and nodes below them. -/
structure Element.AlikeToOperators (d : Dialect) (P Q : Element Unit) : Prop where
  reads : P.ReadsLike d Q
  stock : Q.stock = P.stock
  children : Q.children = P.children

/-- Elements that are alike have the same elements below them. -/
lemma Element.AlikeToOperators.elements {d : Dialect} {P Q : Element Unit}
    (h : P.AlikeToOperators d Q) :
    Q.elements = P.elements := by
  simp only [Element.elements, h.children]

namespace Local

variable {c : Setting} {d : Dialect} {walk : List Nat → Value → Local (Element Unit) Unit}
  {positions : List Nat} {scope scope' : Value} {operand operand' : String}
  {operator : ContentOperator} {P Q : Element Unit}

namespace Matches

/-! ## Steps -/

/-- Elements that are alike are still so when the same is put below both. -/
lemma fill (ts : List (Stocked Unit)) :
    Matches (Element.AlikeToOperators d) (Local.change (Element.fill ts))
    (Local.change (Element.fill ts)) :=
  change fun _ _ h => ⟨h.reads, h.stock, rfl⟩

/-- Elements that are alike are still so without their texts. -/
lemma removeText : Matches (Element.AlikeToOperators d) Local.removeText Local.removeText := by
  refine change fun P Q h => ⟨h.reads, h.stock, ?_⟩
  simp only [Element.removeText, Element.fill, h.children]

/-- Elements that are alike are still so when they are cleared. -/
lemma clear : Matches (Element.AlikeToOperators d) Local.clear Local.clear :=
  fill []

/-- Elements that are alike have the same template for a list. -/
lemma itemTemplate : Matches
    (Element.AlikeToOperators d) Local.itemTemplate Local.itemTemplate := by
  intro P Q h
  unfold Local.itemTemplate
  rw [h.stock, h.elements, h.children]
  cases P.stock with
  | nil =>
    cases P.elements with
    | nil => exact refuse (by rfl) h
    | cons template others => exact ⟨rfl, rfl, h.reads, rfl, rfl⟩
  | cons template others =>
    cases others with
    | nil => exact ⟨rfl, rfl, h⟩
    | cons => exact refuse (by rfl) h

/-- Elements that are alike have the same templates for a map. -/
lemma entryTemplates : Matches
    (Element.AlikeToOperators d) Local.entryTemplates Local.entryTemplates := by
  intro P Q h
  unfold Local.entryTemplates
  rw [h.stock, h.elements, h.children]
  cases P.stock with
  | nil =>
    cases P.elements with
    | nil => exact refuse (by rfl) h
    | cons key others =>
      cases others with
      | nil => exact refuse (by rfl) h
      | cons value others => exact ⟨rfl, rfl, h.reads, rfl, rfl⟩
  | cons key others =>
    cases others with
    | nil => exact refuse (by rfl) h
    | cons => exact ⟨rfl, rfl, h⟩

/-- An action on the children of elements that are alike does the same to both. -/
lemma onChildren (act : Local (List (Stocked Unit)) Unit) :
    Matches (Element.AlikeToOperators d) (Local.onChildren act) (Local.onChildren act) := by
  intro P Q h
  unfold Local.onChildren
  rw [h.children]
  exact ⟨rfl, rfl, h.reads, h.stock, rfl⟩

/-- The same option can be appended to elements that are alike. -/
lemma appendOption (item : Value) :
    Matches (Element.AlikeToOperators d) (Local.appendOption item) (Local.appendOption item) := by
  unfold Local.appendOption
  split
  · exact refuse rfl
  · refine change fun P Q h => ⟨h.reads, h.stock, ?_⟩
    simp only [Element.append, Element.fill, h.children]

/-- An operator that fills an element is undone in the same way in elements that are alike. -/
lemma undoContent (operator : ContentOperator) :
    Matches (Element.AlikeToOperators d) (Local.undoContent operator)
    (Local.undoContent operator) := by
  cases operator with
  | text => exact removeText
  | numbering => exact removeText
  | html => exact clear
  | options => exact clear
  | object => exact pure ()
  | list ordered => exact bind itemTemplate fun _ => clear
  | map ordered => exact bind entryTemplates fun _ => clear

/-! ## Operators that read the same -/

section Reading

variable (hscope : scope.isNull = false) (hscope' : scope'.isNull = false)
  (hread : Path.read c.model scope operand = Path.read c.model scope' operand')
include hscope hscope' hread

/-- The same text is filled into elements that are alike. -/
lemma runText : Matches (Element.AlikeToOperators c.engine.dialect) (Local.runText c scope operand)
    (Local.runText c scope' operand') := by
  simp only [Local.runText, hscope, hscope', Bool.false_eq_true, if_false, hread]
  refine look fun P Q h => ?_
  rw [h.elements]
  split
  · exact refuse (by rfl) h
  · refine bind (check rfl) (fun value => ?_) h
    split
    · exact removeText
    · exact removeText
    · rw [h.reads.display]
      exact bind (check rfl) fun shown => fill _

/-- The same markup is filled into elements that are alike. -/
lemma runHtml : Matches (Element.AlikeToOperators d) (Local.runHtml c scope operand)
    (Local.runHtml c scope' operand') := by
  simp only [Local.runHtml, hscope, hscope', Bool.false_eq_true, if_false, hread]
  refine bind (check rfl) fun value => ?_
  split
  · exact clear
  · unfold Local.fillMarkup
    split
    · exact fill _
    · exact bind clear fun _ => refuse rfl
  · exact refuse rfl

/-- The same list is filled into elements that are alike. -/
lemma runList (ordered : Bool) :
    Matches (Element.AlikeToOperators d) (Local.runList c walk positions scope operand ordered)
      (Local.runList c walk positions scope' operand' ordered) := by
  simp only [Local.runList, hscope, hscope', Bool.false_eq_true, if_false]
  refine bind itemTemplate fun template => bind clear fun _ => bind (check ?_) fun items =>
    onChildren _
  unfold Path.readItems
  rw [hread]
  cases Path.read c.model scope' operand' with
  | error cause => rfl
  | ok value => cases value <;> rfl

/-- The same map is filled into elements that are alike. -/
lemma runMap (ordered : Bool) :
    Matches (Element.AlikeToOperators d) (Local.runMap c walk positions scope operand ordered)
      (Local.runMap c walk positions scope' operand' ordered) := by
  simp only [Local.runMap, hscope, hscope', Bool.false_eq_true, if_false]
  refine bind entryTemplates fun templates => bind clear fun _ => bind (check ?_) fun entries =>
    onChildren _
  unfold Path.readEntries
  rw [hread]
  cases Path.read c.model scope' operand' with
  | error cause => rfl
  | ok value => cases value <;> rfl

/-- The same options are filled into elements that are alike. -/
lemma runOptions : Matches (Element.AlikeToOperators d) (Local.runOptions c scope operand)
    (Local.runOptions c scope' operand') := by
  simp only [Local.runOptions, hscope, hscope', Bool.false_eq_true, if_false, hread]
  refine look fun P Q h => ?_
  rw [h.reads.hasTag]
  split
  · exact refuse (by rfl) h
  · refine bind (check rfl) (fun value => ?_) h
    split
    · exact clear
    · exact bind clear fun _ => forM fun item _ => appendOption item
    · exact refuse rfl

/-- An operator that reads the same from two paths does the same to elements that are alike. -/
lemma content (hoperator : operator.readsPath = true) (hobject : operator ≠ .object) :
    Matches (Element.AlikeToOperators c.engine.dialect)
      (Local.content c walk positions scope operand operator)
      (Local.content c walk positions scope' operand' operator) := by
  refine guarded (undoContent operator) ?_
  cases operator with
  | numbering => cases hoperator
  | object => exact absurd rfl hobject
  | text => exact bind (runText hscope hscope' hread) fun _ => pure _
  | html => exact bind (runHtml hscope hscope' hread) fun _ => pure _
  | list ordered => exact bind (runList hscope hscope' hread ordered) fun _ => pure _
  | map ordered => exact bind (runMap hscope hscope' hread ordered) fun _ => pure _
  | options => exact bind (runOptions hscope hscope' hread) fun _ => pure _

end Reading

end Matches

/-! ## Vacating elements -/

/-- Stops where an element is no place for an operator: options are for selections only. -/
def accept : ContentOperator → Local (Element Unit) Unit
  | .options => do
    let P ← look
    if !P.shell.hasTag ["select"] then refuse (.unsupported (.content .options) P.shell.describe)
    else pure ()
  | _ => pure ()

/-- Empties an element as an operator does for null. -/
def vacate (operator : ContentOperator) : Local (Element Unit) (Option Value) := do
  accept operator
  undoContent operator
  return none

/-- Elements that are alike accept the same operators. -/
lemma matches_accept (operator : ContentOperator) :
    Matches (Element.AlikeToOperators d) (accept operator) (accept operator) := by
  cases operator with
  | options =>
    refine .look fun P Q h => ?_
    rw [h.reads.hasTag]
    split
    · exact Matches.refuse (by rfl) h
    · exact Matches.pure () h
  | _ => exact .pure ()

/-- Elements that are alike are vacated in the same way. -/
lemma matches_vacate (operator : ContentOperator) :
    Matches (Element.AlikeToOperators d) (vacate operator) (vacate operator) :=
  .bind (matches_accept operator) fun _ => .bind (.undoContent operator) fun _ => .pure _

/-- Under a null scope an operator vacates its element. -/
lemma run_null (hoperator : operator.readsPath = true) (hobject : operator ≠ .object)
    (P : Element Unit) : run c walk positions .null operand operator P = vacate operator P := by
  cases operator with
  | numbering => cases hoperator
  | object => exact absurd rfl hobject
  | text => rfl
  | html => rfl
  | options =>
    simp only [run, runOptions, vacate, accept, bind_assoc, look_bind]
    split <;> rfl
  | list ordered =>
    simp only [run, runList, vacate, accept, undoContent, bind_assoc, pure_bind]
    rfl
  | map ordered =>
    simp only [run, runMap, vacate, accept, undoContent, bind_assoc, pure_bind]
    rfl

/-- For a null value an operator vacates its element. -/
lemma run_of_null (hoperator : operator.readsPath = true) (hobject : operator ≠ .object)
    (hscope : scope.isNull = false) (hread : Path.read c.model scope operand = .ok .null)
    (htext : operator = .text → P.elements = []) :
    run c walk positions scope operand operator P = vacate operator P := by
  cases operator with
  | numbering => cases hoperator
  | object => exact absurd rfl hobject
  | text =>
    simp only [run, runText, hscope, hread, check_ok_bind, Bool.false_eq_true, if_false, bind_assoc,
      look_bind, htext rfl]
    rfl
  | html =>
    simp only [run, runHtml, hscope, hread, check_ok_bind, Bool.false_eq_true, if_false]
    rfl
  | options =>
    simp only [run, runOptions, vacate, accept, hscope, hread, check_ok_bind, Bool.false_eq_true,
      if_false, bind_assoc, look_bind]
    split <;> rfl
  | list ordered =>
    have hitems : Path.readItems c.model scope operand = .ok [] := by
      simp only [Path.readItems, hread]
      rfl
    simp only [run, runList, vacate, accept, undoContent, hscope, hitems, check_ok_bind,
      Bool.false_eq_true, if_false, bind_assoc, pure_bind, List.map_nil, onChildren_expand_nil]
  | map ordered =>
    have hentries : Path.readEntries c.model scope operand = .ok [] := by
      simp only [Path.readEntries, hread]
      rfl
    simp only [run, runMap, vacate, accept, undoContent, hscope, hentries, check_ok_bind,
      Bool.false_eq_true, if_false, bind_assoc, pure_bind, List.map_nil, onChildren_expand_nil]

/-- An operator stops as one that vacates the element does, or it stops for a cause and what undoes
it leaves the element vacated. -/
def StopsVacated (operator : ContentOperator) (cause : Cause)
    (act : Local (Element Unit) (Option Value))
    (P : Element Unit) : Prop :=
  (∃ f, (vacate operator P).result = .error f ∧ (act P).result = .error f) ∨
    ∃ Q R, vacate operator P = ⟨.ok none, Q, []⟩ ∧ act P = ⟨.error ⟨cause, none⟩, R, []⟩ ∧
      undoContent operator R = ⟨.ok (), Q, []⟩

/-- Templates are taken before it is seen that there is nothing to fill the element with. -/
lemma Takes.stopsVacated {β : Type} {take : Local (Element Unit) β} (htakes : Takes take)
    {cause : Cause}
    (hundo : undoContent operator = (take >>= fun _ => clear))
    (haccept : accept operator = pure ()) :
    StopsVacated operator cause (take >>= fun _ => clear >>= fun _ => refuse cause) P := by
  unfold StopsVacated vacate
  rw [haccept, hundo, pure_bind]
  cases hP : (take P).result with
  | error f =>
    rcases e : take P with ⟨result, R, notes⟩
    rw [e] at hP
    cases hP
    exact .inl ⟨f, by rw [bind_of_error (bind_of_error e)], by rw [bind_of_error e]⟩
  | ok b =>
    refine .inr ⟨(take P).state.fill [], (take P).state.fill [], ?_, ?_, htakes.undo hP []⟩
    · rw [bind_assoc, bind_of_ok (htakes.of_ok hP)]
      rfl
    · rw [bind_of_ok (htakes.of_ok hP)]
      rfl

/-- Where the model lacks what an operator reads, undoing it leaves the element vacated. -/
lemma run_of_lacking (hoperator : operator.readsPath = true) (hobject : operator ≠ .object)
    (hscope : scope.isNull = false) {cause : Cause}
    (hread : Path.read c.model scope operand = .error cause)
    (htext : operator = .text → P.elements = []) :
    StopsVacated operator cause (run c walk positions scope operand operator) P := by
  cases operator with
  | numbering => cases hoperator
  | object => exact absurd rfl hobject
  | text =>
    refine .inr ⟨P.removeText, P, rfl, ?_, rfl⟩
    simp only [run, runText, hscope, hread, check_error_bind, Bool.false_eq_true, if_false,
      bind_assoc, look_bind, htext rfl]
    rfl
  | html =>
    refine .inr ⟨P.fill [], P, rfl, ?_, rfl⟩
    simp only [run, runHtml, hscope, hread, check_error_bind, Bool.false_eq_true, if_false]
    rfl
  | options =>
    unfold StopsVacated
    simp only [run, runOptions, vacate, accept, hscope, hread, check_error_bind,
      Bool.false_eq_true, if_false, bind_assoc, look_bind]
    split
    · exact .inl ⟨_, rfl, rfl⟩
    · exact .inr ⟨P.fill [], P, rfl, rfl, rfl⟩
  | list ordered =>
    -- the template is taken, and the element cleared, before the path is read
    have hitems : Path.readItems c.model scope operand = .error cause := by
      simp only [Path.readItems, hread]
      rfl
    have hrun : run c walk positions scope operand (.list ordered) =
        (itemTemplate >>= fun _ => clear >>= fun _ => refuse cause) := by
      simp only [run, runList, hscope, hitems, check_error_bind, Bool.false_eq_true, if_false,
        bind_assoc]
      rfl
    rw [hrun]
    exact takes_itemTemplate.stopsVacated rfl rfl
  | map ordered =>
    have hentries : Path.readEntries c.model scope operand = .error cause := by
      simp only [Path.readEntries, hread]
      rfl
    have hrun : run c walk positions scope operand (.map ordered) =
        (entryTemplates >>= fun _ => clear >>= fun _ => refuse cause) := by
      simp only [run, runMap, hscope, hentries, check_error_bind, Bool.false_eq_true, if_false,
        bind_assoc]
      rfl
    rw [hrun]
    exact takes_entryTemplates.stopsVacated rfl rfl

/-! ## Under the policy for faults -/

/-- What is no answer is an error. -/
lemma exists_error_of_ne_ok {ε α : Type} {x : Except ε α} (h : ∀ a, x ≠ .ok a) :
    ∃ e, x = .error e := by
  cases x with
  | error e => exact ⟨e, rfl⟩
  | ok a => exact absurd rfl (h a)

end Local

/-- Two runs both stop, or both succeed, leave the same nodes below the element and note faults of
the same classes, where the first one starts with some that were noted before. -/
def Yield.SameContent {α : Type} (noted : List FaultClass) (x y : Yield (Element Unit) α) : Prop :=
  (∃ f g, x.result = .error f ∧ y.result = .error g) ∨
    ∃ a b, x.result = .ok a ∧ y.result = .ok b ∧ x.state.children = y.state.children ∧
      noted ++ x.notes.map Fault.faultClass = y.notes.map Fault.faultClass

/-- Runs that do the same to elements that are alike leave the same content. -/
lemma Yield.Matches.sameContent {α : Type} {d : Dialect} {x y : Yield (Element Unit) α}
    (h : x.Matches (Element.AlikeToOperators d) y) : x.SameContent [] y := by
  obtain ⟨hresult, hnotes, hstate⟩ := h
  cases hx : x.result with
  | error f =>
    cases hy : y.result with
    | error g => exact .inl ⟨f, g, hx, hy⟩
    | ok b =>
      rw [hx, hy] at hresult
      cases hresult
  | ok a =>
    cases hy : y.result with
    | error g =>
      rw [hx, hy] at hresult
      cases hresult
    | ok b => exact .inr ⟨a, b, hx, hy, hstate.children.symm, hnotes⟩

namespace Local

variable {c : Setting} {d : Dialect} {walk : List Nat → Value → Local (Element Unit) Unit}
  {positions : List Nat} {scope : Value} {operand operand' : String}
  {operator : ContentOperator} {P Q : Element Unit}

/-- Vacating an element stops for assertions only. -/
lemma onlyAssertions_vacate (operator : ContentOperator) : OnlyAssertions (vacate operator) := by
  refine .bind ?_ fun _ => .bind (.undoContent operator) fun _ => .pure _
  cases operator with
  | options =>
    intro P f h
    simp only [accept, look_bind] at h
    split at h <;> cases h
    rfl
  | _ => exact .pure ()

/-- An element is filled under a null scope as one alike is for null. -/
lemma content_of_null (h : P.AlikeToOperators c.engine.dialect Q)
    (hoperator : operator.readsPath = true)
    (hobject : operator ≠ .object) (hscope : scope.isNull = false)
    (hread : Path.read c.model scope operand' = .ok .null)
    (htext : operator = .text → P.elements = []) :
    (content c walk positions .null operand operator P).SameContent []
      (content c walk positions scope operand' operator Q) := by
  have htext' (e : operator = .text) : Q.elements = [] := by rw [h.elements, htext e]
  unfold content
  rw [guarded_congr (run_null hoperator hobject P),
    guarded_congr (run_of_null hoperator hobject hscope hread htext')]
  exact (Matches.guarded (.undoContent operator) (matches_vacate operator) h).sameContent

/-- An element is filled under a null scope as one alike is where the model lacks what is read,
and it is noted for that one that the model lacks it. -/
lemma content_of_lacking (h : P.AlikeToOperators c.engine.dialect Q)
    (hoperator : operator.readsPath = true)
    (hobject : operator ≠ .object) (hscope : scope.isNull = false) {cause : Cause}
    (hread : Path.read c.model scope operand' = .error cause) (hcause : cause.faultClass = .content)
    (htext : operator = .text → P.elements = []) :
    (content c walk positions .null operand operator P).SameContent [.content]
      (content c walk positions scope operand' operator Q) := by
  have htext' (e : operator = .text) : Q.elements = [] := by rw [h.elements, htext e]
  unfold content
  rw [guarded_congr (run_null hoperator hobject P)]
  obtain ⟨hresult, hnotes, hstate⟩ := matches_vacate operator h
  rcases run_of_lacking hoperator hobject hscope hread htext' with
    ⟨g, hvacate, hrun⟩ | ⟨Q', R, hvacate, hrun, hundo⟩
  · -- both stop where the template is written wrongly
    have hclass := onlyAssertions_vacate operator hvacate
    rcases e : vacate operator P with ⟨f | a, P', notes⟩
    · refine .inl ?_
      obtain ⟨f', hf'⟩ := exists_error_of_ne_ok (guarded_assertion (congrArg Yield.result e)
        (onlyAssertions_vacate operator (congrArg Yield.result e)))
      obtain ⟨g', hg'⟩ := exists_error_of_ne_ok (guarded_assertion hrun hclass)
      exact ⟨f', g', hf', hg'⟩
    · rw [e, hvacate] at hresult
      cases hresult
  · rcases e : vacate operator P with ⟨f | a, P', notes⟩
    · rw [e, hvacate] at hresult
      cases hresult
    · rw [e, hvacate] at hnotes hstate
      have hsilent : notes.map Fault.faultClass = [] := hnotes
      have hfaulty : ∀ site, (Fault.inOperator ⟨cause, none⟩ site).faultClass = .content :=
        fun _ => hcause
      rw [guarded_of_lacking hrun hcause hundo]
      rw [guarded_of_ok e]
      refine .inr ⟨a, _, rfl, rfl, hstate.children.symm, ?_⟩
      simp only [hsilent, hfaulty, List.append_nil, List.nil_append, List.map_cons, List.map_nil]

end Local

end TreeTemplate
