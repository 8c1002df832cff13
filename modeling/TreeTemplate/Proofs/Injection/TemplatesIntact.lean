import TreeTemplate.Proofs.Attributes.Declared
import TreeTemplate.Proofs.Attributes.Decorate
import TreeTemplate.Proofs.Content.Copies

/-!
# Trees that are kept in order

What holds of a tree that was read, and of what becomes of it by injecting and resetting it as a
whole: nothing was taken out of the templates themselves, nor out of what is still to become a
template, and no element is left by a jump.

Main statements:

* `templatesIntact_ofTree` — a tree that was read;
* `keeps_templatesIntact_inject`, `keeps_templatesIntact_reset` — what becomes of it.
-/

namespace TreeTemplate

variable {d : Dialect} {P Q : Element Unit}

namespace Stocked

/-- Nothing was taken out of any element of a tree. -/
def NothingTaken (t : Stocked Unit) : Prop :=
  t.copy = t

/-- Nothing was taken out of a tree with nothing in stock. -/
lemma nothingTaken_ofTree (t : Tree Unit) : (ofTree t).NothingTaken := by
  unfold NothingTaken copy
  rw [tree_ofTree]

variable {t : Stocked Unit}

/-- Nothing was taken out of a copy. -/
lemma nothingTaken_copy (t : Stocked Unit) : t.copy.NothingTaken :=
  nothingTaken_ofTree t.tree

/-- The templates of a tree fit if nothing was taken out of it. -/
lemma NothingTaken.fit (h : t.NothingTaken) : t.Fit :=
  h ▸ fit_ofTree t.tree

/-- No template of a tree has lost anything if nothing was taken out of it. -/
lemma NothingTaken.tidy (h : t.NothingTaken) : t.Tidy :=
  h ▸ tidy_ofTree t.tree

/-- Nothing is in stock where nothing was taken out. -/
lemma NothingTaken.stock_eq_nil (h : t.NothingTaken) : t.stock = [] := by
  rw [← h]
  unfold copy
  cases t.tree <;> rfl

end Stocked

/-- Whether an operator fills an element with copies of templates. -/
def ContentOperator.copies : ContentOperator → Bool
  | .list _ | .map _ => true
  | _ => false

/-- An element is in order: nothing was taken out of its templates, nor of the elements below it
that are still to become templates, and it is left by no jump and can get none. -/
structure Element.TemplatesIntact (d : Dialect) (P : Element Unit) : Prop where
  jumpFree : P.head.JumpFree d
  unmarked : P.head.Unmarked d
  few : P.stock.length ≤ 2
  templates : ∀ t ∈ P.stock, t.isElement = true ∧ t.NothingTaken
  fresh : P.head.fills d ContentOperator.copies = true → P.stock = [] →
    ∀ t ∈ P.children, t.NothingTaken
  markup : Stocked.holdsMarkup d P.head = true → ∀ t ∈ P.children, t.NothingTaken

/-- Every element of a tree is in order, save those in markup that an element is filled with. -/
def Stocked.TemplatesIntact (d : Dialect) (t : Stocked Unit) : Prop :=
  t.AllBut (holdsMarkup d) (Element.TemplatesIntact d)

namespace Stocked

variable {t : Stocked Unit}

/-- A tree that was read is in order if it is left by no jump and can get none. -/
lemma templatesIntact_ofTree {u : Tree Unit}
    (h : (ofTree u).All fun P => P.head.JumpFree d ∧ P.head.Unmarked d) :
    (ofTree u).TemplatesIntact d := by
  induction u using Tree.induct with
  | text label content => trivial
  | element label tag attrs hidden children ih =>
    rw [ofTree_element] at h ⊢
    obtain ⟨⟨hfree, hunmarked⟩, -, hchildren⟩ := all_element.1 h
    refine allBut_element.2 ⟨⟨hfree, hunmarked, Nat.zero_le _, by simp, ?_, ?_⟩, by simp, ?_⟩
    · intro _ _ t ht
      obtain ⟨u, _, rfl⟩ := List.mem_map.1 ht
      exact nothingTaken_ofTree u
    · intro _ t ht
      obtain ⟨u, _, rfl⟩ := List.mem_map.1 ht
      exact nothingTaken_ofTree u
    · intro _ t ht
      obtain ⟨u, hu, rfl⟩ := List.mem_map.1 ht
      exact ih u hu (hchildren _ ht)

/-- A copy of a tree in order is in order. -/
lemma TemplatesIntact.copy (h : t.TemplatesIntact d) : t.copy.TemplatesIntact d := by
  refine AllBut.copy (fun head stock children hP => ?_) h
  have hcopies : ∀ t ∈ children.map Stocked.copy, t.NothingTaken := by
    intro t ht
    obtain ⟨u, _, rfl⟩ := List.mem_map.1 ht
    exact nothingTaken_copy u
  exact ⟨hP.jumpFree, hP.unmarked, Nat.zero_le _, by simp, fun _ _ => hcopies, fun _ => hcopies⟩

/-- The templates of a tree in order are at most two elements, and nothing was taken out of
them. -/
lemma TemplatesIntact.fit_tidy (h : t.TemplatesIntact d) : t.Fit ∧ t.Tidy := by
  induction t using Stocked.induct with
  | text label content => exact ⟨trivial, trivial⟩
  | element label head stock children _ ih =>
    obtain ⟨hP, -, hchildren⟩ := allBut_element.1 h
    have hbelow : ∀ t ∈ children, t.Fit ∧ t.Tidy := by
      intro t ht
      cases hmarkup : holdsMarkup d head with
      | true => exact ⟨(hP.markup hmarkup t ht).fit, (hP.markup hmarkup t ht).tidy⟩
      | false => exact ih t ht (hchildren hmarkup t ht)
    refine ⟨fit_element.2 ⟨hP.few, fun t ht => ?_, fun t ht => (hbelow t ht).1⟩,
      tidy_element.2 ⟨fun t ht => ?_, fun t ht => (hbelow t ht).2⟩⟩
    · obtain ⟨helement, hpristine⟩ := hP.templates t ht
      exact ⟨helement, hpristine.fit⟩
    · obtain ⟨-, hpristine⟩ := hP.templates t ht
      exact ⟨hpristine.stock_eq_nil, hpristine.tidy⟩

/-- No element of a tree in order is left by a jump. -/
lemma TemplatesIntact.unjumped (h : t.TemplatesIntact d) : t.Unjumped d :=
  AllBut.mono (fun _ hP => hP.jumpFree) h

end Stocked

/-! ## Changing an element -/

/-- An element in order has other nodes below it. -/
lemma Stocked.TemplatesIntact.fill {us : List (Stocked Unit)} (h : P.whole.TemplatesIntact d)
    (hus : Stocked.holdsMarkup d P.head = false → ∀ u ∈ us, u.TemplatesIntact d)
    (hfresh : P.head.fills d ContentOperator.copies = true → P.stock = [] →
      ∀ u ∈ us, u.NothingTaken)
    (hmarkup : Stocked.holdsMarkup d P.head = true → ∀ u ∈ us, u.NothingTaken) :
    (P.fill us).whole.TemplatesIntact d := by
  obtain ⟨hP, hstock, -⟩ := Stocked.allBut_element.1 h
  exact Stocked.allBut_element.2
    ⟨⟨hP.jumpFree, hP.unmarked, hP.few, hP.templates, hfresh, hmarkup⟩, hstock, hus⟩

/-- An element in order is refilled without elements. -/
lemma Stocked.TemplatesIntact.refill {g : Refill} (h : P.whole.TemplatesIntact d) (hg : g.Textual) :
    (P.fill (g.apply P.children)).whole.TemplatesIntact d := by
  obtain ⟨hP, -, hchildren⟩ := Stocked.allBut_element.1 h
  have hpristine (hall : ∀ u ∈ P.children, u.NothingTaken) :
      ∀ u ∈ g.apply P.children, u.NothingTaken := by
    intro u hu
    rcases hg.mem hu with hmem | htext
    · exact hall u hmem
    · cases u with
      | element => cases htext
      | text label content => rfl
  refine h.fill (fun hnone u hu => ?_) (fun hfills hnil => hpristine (hP.fresh hfills hnil))
    fun hmarkup => hpristine (hP.markup hmarkup)
  rcases hg.mem hu with hmem | htext
  · exact hchildren hnone u hmem
  · cases u with
    | element => cases htext
    | text label content => trivial

/-- An element in order gets another head with the same directives. -/
lemma Stocked.TemplatesIntact.dress {head : Head} (h : P.whole.TemplatesIntact d)
    (hagrees : P.head.Agrees d head) :
    (⟨head, P.stock, P.children⟩ : Element Unit).whole.TemplatesIntact d := by
  obtain ⟨hP, hstock, hchildren⟩ := Stocked.allBut_element.1 h
  have hmarkup : Stocked.holdsMarkup d head = Stocked.holdsMarkup d P.head := by
    rw [Head.holdsMarkup_eq, Head.holdsMarkup_eq, hagrees.fills_eq]
  refine Stocked.allBut_element.2 ⟨⟨hagrees.jumpFree hP.jumpFree, hagrees.unmarked hP.unmarked,
    hP.few, hP.templates, ?_, ?_⟩, hstock, ?_⟩
  · rw [show (⟨head, P.stock, P.children⟩ : Element Unit).head = head from rfl, hagrees.fills_eq]
    exact hP.fresh
  · rw [show (⟨head, P.stock, P.children⟩ : Element Unit).head = head from rfl, hmarkup]
    exact hP.markup
  · rw [hmarkup]
    exact hchildren

/-- An element in order is touched. -/
lemma Stocked.TemplatesIntact.touch {touch : Touch} (h : P.whole.TemplatesIntact d)
    (hname : ∀ name, touch.name? = some name → d.reserves name = false) :
    (touch.apply P).whole.TemplatesIntact d := by
  have hagrees : P.head.Agrees d ⟨P.head.tag, touch.onAttrs P.head.attrs, P.head.hidden⟩ :=
    ⟨rfl, touch.filter_onAttrs d.reserves hname P.head.attrs⟩
  have hrefill := (h.dress hagrees).refill touch.textual_refill
  rw [Touch.apply_eq, Touch.onChildren_eq]
  exact hrefill

/-! ## What injecting and resetting keep -/

namespace Local

variable {c : Setting} {ds : Directives} {scope : Value} {positions : List Nat}
  {walk : List Nat → Value → Local (Element Unit) Unit}
  {enter : List Nat → Value → Bool → Local (Element Unit) Unit} {operator : ContentOperator}
  {operand : String}

/-- An element is in order and has the directives of a given one. -/
def IntactLike (d : Dialect) (P Q : Element Unit) : Prop :=
  Q.whole.TemplatesIntact d ∧ P.head.Agrees d Q.head

/-- A touch that writes no reserved name leaves an element in order, with its directives. -/
lemma IntactLike.touch {touch : Touch} (h : IntactLike d P Q)
    (hname : ∀ name, touch.name? = some name → d.reserves name = false) :
    IntactLike d P (touch.apply Q) :=
  ⟨h.1.touch hname, h.2.trans (Touch.agrees hname Q)⟩

/-- Hiding or showing an element leaves it in order. -/
lemma keeps_templatesIntact_setHidden (hidden : Bool) : Keeps (IntactLike d P)
    (setHidden hidden) := by
  refine Keeps.change fun Q hQ => ?_
  have hagrees : Q.head.Agrees d ⟨Q.head.tag, Q.head.attrs, hidden⟩ := ⟨rfl, rfl⟩
  exact ⟨hQ.1.dress hagrees, hQ.2.trans hagrees⟩

/-- Refilling an element with texts leaves it in order. -/
lemma keeps_templatesIntact_refill {g : Refill} (hg : g.Textual) :
    Keeps (IntactLike d P) (change fun Q => Q.fill (g.apply Q.children)) :=
  Keeps.change fun _ hQ => ⟨hQ.1.refill hg, hQ.2⟩

/-- Clearing an element leaves it in order. -/
lemma keeps_templatesIntact_clear : Keeps (IntactLike d P) clear :=
  keeps_templatesIntact_refill (g := .put []) rfl

/-- Removing the texts of an element leaves it in order. -/
lemma keeps_templatesIntact_removeText : Keeps (IntactLike d P) removeText :=
  keeps_templatesIntact_refill (g := .dropTexts) trivial

/-- Filling an element with a text leaves it in order. -/
lemma keeps_templatesIntact_fillText (content : String) : Keeps (IntactLike d P)
    (fillText content) :=
  keeps_templatesIntact_refill (g := .put [.text () content]) rfl

/-- Appending an option leaves an element in order. -/
lemma keeps_templatesIntact_appendOption (item : Value) : Keeps (IntactLike d P)
    (appendOption item) := by
  unfold appendOption
  cases item.text? with
  | none => exact Keeps.refuse _
  | some shown =>
    refine Keeps.change fun Q ⟨hQ, hagrees⟩ => ⟨?_, hagrees⟩
    obtain ⟨hintact, -, hchildren⟩ := Stocked.allBut_element.1 hQ
    have hoption : Stocked.ofTree (.element () "option" [("value", shown)] false
        [.text () shown]) = .element () ⟨"option", [("value", shown)], false⟩ []
          [.text () shown] :=
      Stocked.ofTree_element
    have hpristine := Stocked.nothingTaken_ofTree (.element () "option" [("value", shown)] false
      [.text () shown])
    have hnone : d.operator? "value" = none := by
      have hreserved := @Dialect.reserves_own d "value" (by decide)
      simpa [Dialect.reserves] using (Bool.or_eq_false_iff.1 hreserved).1
    have hempty := @Stocked.templatesIntact_ofTree d (.element () "option" [("value", shown)] false
      [.text () shown]) (by
        rw [hoption]
        refine Stocked.all_element.2 ⟨⟨?_, ?_⟩, by simp, by simp [Stocked.AllBut]⟩
        · exact List.forall_mem_singleton.2 (by simp [hnone])
        · intro operand hop
          simp [Head.setters, hnone] at hop)
    rw [hoption] at hpristine hempty
    refine hQ.fill (fun hmarkup => ?_) (fun hfills hnil => ?_) fun hmarkup => ?_
    · exact List.forall_mem_append.2 ⟨hchildren hmarkup, List.forall_mem_singleton.2 hempty⟩
    · exact List.forall_mem_append.2
        ⟨hintact.fresh hfills hnil, List.forall_mem_singleton.2 hpristine⟩
    · exact List.forall_mem_append.2
        ⟨hintact.markup hmarkup, List.forall_mem_singleton.2 hpristine⟩

/-- Taking a template out of an element that declares copies leaves it in order. -/
lemma IntactLike.stockUp {templates others : List (Stocked Unit)} (h : IntactLike d P Q)
    (hmarkup : Stocked.holdsMarkup d P.head = false)
    (hcopies : P.head.fills d ContentOperator.copies = true) (hnil : Q.stock = [])
    (hfew : templates.length ≤ 2) (hne : templates ≠ [])
    (htemplates : ∀ t ∈ templates, t ∈ Q.elements) (hothers : ∀ t ∈ others, t ∈ Q.children) :
    IntactLike d P (Q.stockUp templates others) := by
  obtain ⟨hQ, hagrees⟩ := h
  obtain ⟨hintact, -, hchildren⟩ := Stocked.allBut_element.1 hQ
  have hnone : Stocked.holdsMarkup d Q.head = false := by
    rw [Head.holdsMarkup_eq, hagrees.fills_eq, ← Head.holdsMarkup_eq, hmarkup]
  have hfills : Q.head.fills d ContentOperator.copies = true := by
    rw [hagrees.fills_eq, hcopies]
  have hmem {t : Stocked Unit} (ht : t ∈ Q.elements) : t ∈ Q.children ∧ t.isElement = true :=
    List.mem_filter.1 ht
  refine ⟨Stocked.allBut_element.2 ⟨⟨hintact.jumpFree, hintact.unmarked, hfew, fun t ht => ?_,
    fun _ h => absurd h hne, fun h => ?_⟩, fun t ht => ?_, fun _ t ht => ?_⟩, hagrees⟩
  · have helement := hmem (htemplates t ht)
    exact ⟨helement.2, hintact.fresh hfills hnil t helement.1⟩
  · rw [show Stocked.holdsMarkup d Q.head = true from h] at hnone
    cases hnone
  · exact hchildren hnone t (hmem (htemplates t ht)).1
  · exact hchildren hnone t (hothers t ht)

/-- Taking the template of a list out of an element leaves it in order. -/
lemma keeps_templatesIntact_itemTemplate (hmarkup : Stocked.holdsMarkup d P.head = false)
    (hcopies : P.head.fills d ContentOperator.copies = true) :
    Keeps (IntactLike d P) itemTemplate := by
  intro Q hQ
  unfold itemTemplate
  split
  · exact hQ
  · exact hQ
  · rename_i hnil
    split
    · rename_i helements
      exact hQ.stockUp hmarkup hcopies hnil (by simp) (by simp) (by simp [helements])
        fun t ht => List.mem_of_mem_eraseP ht
    · exact hQ

/-- Taking the templates of a map out of an element leaves it in order. -/
lemma keeps_templatesIntact_entryTemplates (hmarkup : Stocked.holdsMarkup d P.head = false)
    (hcopies : P.head.fills d ContentOperator.copies = true) :
    Keeps (IntactLike d P) entryTemplates := by
  intro Q hQ
  unfold entryTemplates
  split
  · exact hQ
  · exact hQ
  · rename_i hnil
    split
    · rename_i helements
      exact hQ.stockUp hmarkup hcopies hnil (by simp) (by simp) (by simp [helements])
        fun t ht => List.mem_of_mem_eraseP (List.mem_of_mem_eraseP ht)
    · exact hQ
    · exact hQ

/-- An element with templates in stock is filled with nodes that are in order. -/
lemma IntactLike.fill {us : List (Stocked Unit)} (h : IntactLike d P Q)
    (hmarkup : Stocked.holdsMarkup d P.head = false) (hne : Q.stock ≠ [])
    (hus : ∀ u ∈ us, u.TemplatesIntact d) : IntactLike d P (Q.fill us) := by
  refine ⟨h.1.fill (fun _ => hus) (fun _ hnil => absurd hnil hne) fun htrue => ?_, h.2⟩
  rw [Head.holdsMarkup_eq, h.2.fills_eq, ← Head.holdsMarkup_eq, hmarkup] at htrue
  cases htrue

/-- The templates that an element in order has are in order. -/
lemma IntactLike.template (h : IntactLike d P Q) {t : Stocked Unit} (ht : t ∈ Q.stock) :
    t.TemplatesIntact d :=
  (Stocked.allBut_element.1 h.1).2.1 t ht

/-- The template of a list is all that is in stock once it was taken. -/
lemma stock_itemTemplate {t : Stocked Unit} (h : (itemTemplate Q).result = .ok t) :
    (itemTemplate Q).state.stock = [t] := by
  unfold itemTemplate at h ⊢
  split at h
  · cases h
    assumption
  · cases h
  · split at h <;> cases h
    rfl

/-- The templates of a map are the first in stock once they were taken. -/
lemma stock_entryTemplates {key value : Stocked Unit}
    (h : (entryTemplates Q).result = .ok (key, value)) :
    ∃ more, (entryTemplates Q).state.stock = key :: value :: more := by
  unfold entryTemplates at h ⊢
  split at h
  · cases h
  · cases h
    exact ⟨_, by assumption⟩
  · split at h <;> cases h
    exact ⟨[], rfl⟩

/-- An operator that fills an element keeps it in order. -/
lemma keeps_templatesIntact_content
    (hcopies : operator.copies = true → Stocked.holdsMarkup d P.head = false ∧
      P.head.fills d ContentOperator.copies = true)
    (hhtml : operator = .html → Stocked.holdsMarkup d P.head = true)
    (hwalk : ∀ inside value, Keeps (fun Q => Q.whole.TemplatesIntact d) (walk inside value)) :
    Keeps (IntactLike d P) (content c walk positions scope operand operator) := by
  cases operator with
  | text =>
    exact .guarded keeps_templatesIntact_removeText
      (.bind (.runText keeps_templatesIntact_removeText keeps_templatesIntact_fillText)
        fun _ => .pure _)
  | numbering =>
    exact .guarded keeps_templatesIntact_removeText
      (.bind (.runNumbering keeps_templatesIntact_fillText) fun _ => .pure _)
  | object => exact .guarded (.pure ()) (.bind .runObject fun _ => .pure _)
  | options =>
    exact .guarded keeps_templatesIntact_clear
      (.bind (.runOptions keeps_templatesIntact_clear keeps_templatesIntact_appendOption)
        fun _ => .pure _)
  | html =>
    refine .guarded keeps_templatesIntact_clear
      (.bind (.runHtml keeps_templatesIntact_clear fun Q trees hQ => ⟨?_, hQ.2⟩) fun _ => .pure _)
    have hmarkup : Stocked.holdsMarkup d Q.head = true := by
      rw [Head.holdsMarkup_eq, hQ.2.fills_eq, ← Head.holdsMarkup_eq, hhtml rfl]
    have hpristine : ∀ u ∈ trees.map Stocked.ofTree, u.NothingTaken :=
      List.forall_mem_map.2 fun u _ => Stocked.nothingTaken_ofTree u
    refine hQ.1.fill (fun hnone => ?_) (fun _ _ => hpristine) fun _ => hpristine
    rw [hmarkup] at hnone
    cases hnone
  | list ordered =>
    obtain ⟨hmarkup, hfills⟩ := hcopies rfl
    -- the copies are made of a template in stock, which is in order as the element is
    have htake := keeps_templatesIntact_itemTemplate hmarkup hfills
    rw [content_list]
    refine .copying takes_itemTemplate .itemTemplate fillsAnyElement_list htake
      fun Q t us hQ hok hus => ?_
    have hstock := stock_itemTemplate hok
    refine (htake Q hQ).fill hmarkup (by simp [hstock]) ?_
    rcases hus with rfl | ⟨R, rfl⟩
    · simp
    · have ht : t.TemplatesIntact d := (htake Q hQ).template (by simp [hstock])
      split
      · simp [Element.fill]
      · cases Path.readItems c.model scope operand with
        | error cause => simp [Element.fill, refuse, Local.fail]
        | ok items =>
          refine forall_expand (p := Stocked.TemplatesIntact d) hwalk (fun copies hcopies => ?_) 1
            [] (by simp)
          obtain ⟨item, -, rfl⟩ := List.mem_map.1 hcopies
          exact List.forall_mem_singleton.2 ht.copy
  | map ordered =>
    obtain ⟨hmarkup, hfills⟩ := hcopies rfl
    have htake := keeps_templatesIntact_entryTemplates hmarkup hfills
    rw [content_map]
    refine .copying takes_entryTemplates .entryTemplates fillsAnyElement_map htake
      fun Q templates us hQ hok hus => ?_
    obtain ⟨key, value⟩ := templates
    obtain ⟨more, hstock⟩ := stock_entryTemplates hok
    refine (htake Q hQ).fill hmarkup (by simp [hstock]) ?_
    rcases hus with rfl | ⟨R, rfl⟩
    · simp
    · have hkey : key.TemplatesIntact d := (htake Q hQ).template (by simp [hstock])
      have hvalue : value.TemplatesIntact d := (htake Q hQ).template (by simp [hstock])
      split
      · simp [Element.fill]
      · cases Path.readEntries c.model scope operand with
        | error cause => simp [Element.fill, refuse, Local.fail]
        | ok entries =>
          refine forall_expand (p := Stocked.TemplatesIntact d) hwalk (fun copies hcopies => ?_) 1
            [] (by simp)
          obtain ⟨entry, -, rfl⟩ := List.mem_map.1 hcopies
          exact List.forall_mem_cons.2 ⟨hkey.copy, List.forall_mem_singleton.2 hvalue.copy⟩

/-- Walking below an element keeps it in order, unless it is filled with copies or markup. -/
lemma keeps_templatesIntact_below {act : Local (Element Unit) Unit}
    (hmarkup : Stocked.holdsMarkup d P.head = false)
    (hcopies : P.head.fills d ContentOperator.copies = false)
    (hact : Keeps (fun Q => Q.whole.TemplatesIntact d) act) : Keeps (IntactLike d P)
    (below act) := by
  intro Q ⟨hQ, hagrees⟩
  have hnone : Stocked.holdsMarkup d Q.head = false := by
    rw [Head.holdsMarkup_eq, hagrees.fills_eq, ← Head.holdsMarkup_eq, hmarkup]
  have hchildren := (Stocked.allBut_element.1 hQ).2.2 hnone
  refine ⟨hQ.fill (fun _ => ?_) (fun htrue => ?_) fun htrue => ?_, hagrees⟩
  · refine forall_sweep fun x hx => ?_
    obtain ⟨t, ht, rfl⟩ := List.mem_map.1 hx
    exact ⟨hchildren t ht, hact⟩
  · rw [hagrees.fills_eq, hcopies] at htrue
    cases htrue
  · rw [hnone] at htrue
    cases htrue

/-- What an element declares about its content, as its directives tell it. -/
lemma fills_of_declared (hds : Directives.ofAttrs d P.shell.describe P.head.attrs = .ok ds) :
    Stocked.holdsMarkup d P.head = (ds.content?.any fun content => content.1 == .html) ∧
      P.head.fills d ContentOperator.copies = ds.content?.any fun content => content.1.copies := by
  rw [Head.holdsMarkup_eq]
  exact ⟨Head.fills_of_content? hds _, Head.fills_of_content? hds _⟩

/-- The operator that fills an element is declared, or it is one of those for copies. -/
lemma contentOperator_eq_ok {isItem : Bool} {content? : Option (ContentOperator × String)}
    (h : (contentOperator ds isItem P).result = .ok content?) : content? = ds.content? ∨
      ds.content? = none ∧ ∃ operator, content? = some (operator, ".") ∧
        (operator = .text ∨ operator = .object) := by
  unfold contentOperator at h
  cases hcontent : ds.content? with
  | some content =>
    rw [hcontent] at h
    cases h
    exact .inl rfl
  | none =>
    rw [hcontent] at h
    cases isItem with
    | false =>
      cases h
      exact .inl rfl
    | true =>
      cases h
      refine .inr ⟨rfl, itemOperator P, rfl, ?_⟩
      unfold itemOperator
      split
      · exact .inl rfl
      · exact .inr rfl

/-- Choosing the operator that fills an element keeps any property. -/
lemma keeps_contentOperator {R : Element Unit → Prop} (isItem : Bool) :
    Keeps R (contentOperator ds isItem) := by
  intro Q hQ
  unfold contentOperator
  split <;> exact hQ

/-- Filling an element keeps it in order. -/
lemma keeps_templatesIntact_fill (hds : Directives.ofAttrs d P.shell.describe P.head.attrs = .ok ds)
    (henter : ∀ inside value isItem, Keeps (fun Q => Q.whole.TemplatesIntact d)
      (enter inside value isItem))
    (isItem : Bool) : Keeps (IntactLike d P) (fill c enter positions ds scope isItem) := by
  obtain ⟨hmarkup, hcopies⟩ := fills_of_declared hds
  refine .bind_after (keeps_contentOperator isItem) fun Q content? hQ hcontent => ?_
  have hQ' : IntactLike d P (contentOperator ds isItem Q).state :=
    keeps_contentOperator isItem Q hQ
  generalize (contentOperator ds isItem Q).state = Q' at hQ'
  -- an element whose content is left to be walked has neither copies nor markup
  have hfills : ∀ operator operand, content? = some (operator, operand) →
      (operator.copies = true → Stocked.holdsMarkup d P.head = false ∧
        P.head.fills d ContentOperator.copies = true) ∧
      (operator = .html → Stocked.holdsMarkup d P.head = true) := by
    rintro operator operand rfl
    rcases contentOperator_eq_ok hcontent with hdeclared | ⟨-, operator', heq, hoperator⟩
    · rw [hmarkup, hcopies, ← hdeclared]
      cases operator <;> simp [ContentOperator.copies]
    · cases heq
      rcases hoperator with rfl | rfl <;> simp [ContentOperator.copies]
  have hwalked : content? = none ∨ (∃ operand, content? = some (.object, operand)) →
      Stocked.holdsMarkup d P.head = false ∧
        P.head.fills d ContentOperator.copies = false := by
    rw [hmarkup, hcopies]
    rintro (rfl | ⟨operand, rfl⟩)
    · rcases contentOperator_eq_ok hcontent with hdeclared | ⟨-, _, heq, -⟩
      · simp [← hdeclared]
      · cases heq
    · rcases contentOperator_eq_ok hcontent with hdeclared | ⟨hnone, -⟩
      · simp [← hdeclared, ContentOperator.copies]
      · simp [hnone]
  refine Keeps.bind_after (R := IntactLike d P) ?_ (fun Q inner? hQ hinner => ?_) Q' hQ'
  · cases content? with
    | none => exact .pure _
    | some content =>
      obtain ⟨operator, operand⟩ := content
      obtain ⟨hop, hhtml⟩ := hfills operator operand rfl
      exact keeps_templatesIntact_content hop hhtml fun inside value => henter inside value true
  · cases content? with
    | none =>
      cases hinner
      obtain ⟨hnone, hnot⟩ := hwalked (.inl rfl)
      exact keeps_templatesIntact_below hnone hnot (henter positions scope false) Q hQ
    | some content =>
      obtain ⟨operator, operand⟩ := content
      obtain ⟨hop, hhtml⟩ := hfills operator operand rfl
      have hkept : IntactLike d P (content c (fun inside value => enter inside value true)
          positions scope operand operator Q).state :=
        keeps_templatesIntact_content hop hhtml (fun inside value => henter inside value true) Q hQ
      cases inner? with
      | none => exact hkept
      | some inner =>
        obtain ⟨rfl, -⟩ := content_some operator hinner
        obtain ⟨hnone, hnot⟩ := hwalked (.inr ⟨operand, rfl⟩)
        exact keeps_templatesIntact_below hnone hnot (henter positions inner false) _ hkept

/-- Setting the attributes of an element and showing it keeps it in order. -/
lemma keeps_templatesIntact_decorate (hP : P.head.Unmarked c.engine.dialect)
    (hds : Directives.ofAttrs c.engine.dialect P.shell.describe P.head.attrs = .ok ds) :
    Keeps (IntactLike c.engine.dialect P) (decorate c ds scope) := by
  have hops := hP.unreserved_of hds
  refine .decorate_covered (t := P.shell) (fun Q hQ => hQ.2.1) (fun op hop touch hcovers Q hQ => ?_)
    fun _ hidden => keeps_templatesIntact_setHidden hidden
  exact hQ.touch fun name hname => hops op hop name (hcovers.name_mem hname)

/-- Injecting a scope into an element and everything below it keeps it in order. -/
lemma keeps_templatesIntact_inject (room depth : Nat) (positions : List Nat) (scope : Value)
    (isItem : Bool) : Keeps (fun P => P.whole.TemplatesIntact c.engine.dialect)
      (inject c room depth positions scope isItem) := by
  induction room generalizing depth positions scope isItem with
  | zero => exact fun _ h => h
  | succ room ih =>
    refine .directives_bind fun P ds hP hds => ?_
    have hself : IntactLike c.engine.dialect P P := ⟨hP, .refl _⟩
    have hunmarked := (Stocked.allBut_element.1 hP).1.unmarked
    have hkept : Keeps (IntactLike c.engine.dialect P)
        (injectDirectives c (inject c room (depth + 1)) positions ds scope isItem) :=
      .injectDirectives (keeps_templatesIntact_decorate hunmarked hds)
        (keeps_templatesIntact_fill hds
          (fun inside value isItem => ih (depth + 1) inside value isItem) isItem)
    exact (hkept P hself).1

/-- Walking what is below an element does nothing where nothing is. -/
lemma below_of_nil {act : Local (Element Unit) Unit} (h : Q.children = []) :
    (below act Q).state = Q := by
  obtain ⟨head, stock, children⟩ := Q
  cases h
  rfl

/-- Removing what fills an element, and walking what is left below it, keeps it in order. -/
lemma keeps_templatesIntact_unfill_below {act : Local (Element Unit) Unit}
    (hds : Directives.ofAttrs d P.shell.describe P.head.attrs = .ok ds)
    (hact : Keeps (fun Q => Q.whole.TemplatesIntact d) act) :
    Keeps (IntactLike d P) (unfill ds >>= fun _ => below act) := by
  obtain ⟨hmarkup, hcopies⟩ := fills_of_declared hds
  unfold unfill
  cases hcontent : ds.content? with
  | none =>
    rw [hcontent] at hmarkup hcopies
    exact .bind (.pure _) fun _ => keeps_templatesIntact_below hmarkup hcopies hact
  | some content =>
    obtain ⟨operator, operand⟩ := content
    rw [hcontent] at hmarkup hcopies
    -- of what makes copies, and of markup, nothing is left to be walked
    have hempty {undo : Local (Element Unit) Unit} (hundo : Keeps (IntactLike d P) undo)
        (hnil : ∀ Q, (undo Q).result = .ok () → (undo Q).state.children = []) :
        Keeps (IntactLike d P)
          (inOperator (.content operator) operand undo >>= fun _ => below act) := by
      refine .bind_after (.inOperator hundo) fun Q _ hQ hok => ?_
      have hkept := hundo Q hQ
      rcases e : undo Q with ⟨f | _, Q', notes⟩
      · simp only [inOperator, e] at hok
        cases hok
      · have hchildren := hnil Q (by rw [e])
        rw [e] at hkept hchildren
        simp only [inOperator, e]
        rw [below_of_nil hchildren]
        exact hkept
    cases operator with
    | text =>
      exact .bind (.inOperator keeps_templatesIntact_removeText) fun _ =>
        keeps_templatesIntact_below hmarkup hcopies hact
    | numbering =>
      exact .bind (.inOperator keeps_templatesIntact_removeText) fun _ =>
        keeps_templatesIntact_below hmarkup hcopies hact
    | object =>
      exact .bind (.inOperator (.pure _)) fun _ => keeps_templatesIntact_below hmarkup hcopies hact
    | options =>
      exact .bind (.inOperator keeps_templatesIntact_clear) fun _ =>
        keeps_templatesIntact_below hmarkup hcopies hact
    | html => exact hempty keeps_templatesIntact_clear fun _ _ => rfl
    | list ordered =>
      refine hempty
        (.bind (keeps_templatesIntact_itemTemplate hmarkup hcopies) fun _ =>
          keeps_templatesIntact_clear)
        fun Q hok => ?_
      obtain ⟨t, _, _, hstate, _⟩ := bind_eq_ok hok
      exact (congrArg Element.children hstate).trans rfl
    | map ordered =>
      refine hempty
        (.bind (keeps_templatesIntact_entryTemplates hmarkup hcopies) fun _ =>
          keeps_templatesIntact_clear)
        fun Q hok => ?_
      obtain ⟨templates, _, _, hstate, _⟩ := bind_eq_ok hok
      exact (congrArg Element.children hstate).trans rfl

/-- Bringing an element and everything below it back keeps it in order. -/
lemma keeps_templatesIntact_reset (room depth : Nat) :
    Keeps (fun P => P.whole.TemplatesIntact d) (reset d room depth) := by
  induction room generalizing depth with
  | zero => exact fun _ h => h
  | succ room ih =>
    refine .directives_bind fun P ds hP hds => ?_
    have hself : IntactLike d P P := ⟨hP, .refl _⟩
    have hops := (Stocked.allBut_element.1 hP).1.unmarked.unreserved_of hds
    suffices hkept : Keeps (IntactLike d P)
        (resetDirectives (reset d room (depth + 1)) ds) from (hkept P hself).1
    refine .bind ?_ fun _ => .bind (.unhide (keeps_templatesIntact_setHidden false)) fun _ =>
      keeps_templatesIntact_unfill_below hds (ih (depth + 1))
    refine .undoAttributes_covered (t := P.shell) (fun Q hQ => hQ.2.1)
      fun op hop touch hcovers Q hQ => ?_
    exact hQ.touch fun name hname => hops op hop name (hcovers.name_mem hname)

end Local

end TreeTemplate
