import TreeTemplate.Proofs.Follow.Inject
import TreeTemplate.Proofs.Injection.TemplatesIntact
import TreeTemplate.Proofs.Stocked.Spots

/-!
# Trees whose stock fits

The stock of an element is what a list or a map has taken out of it: at most two templates, which
are elements. Injecting and resetting any part of a tree leaves it so, whatever was done to other
parts before, and whether or not anything was taken out of a template by itself.

Main statements:

* `keeps_fit_inject`, `keeps_fit_injectSubtree`, `keeps_fit_reset` — what becomes of an element;
* `Stocked.Fit.put` — the tree around the element.
-/

namespace TreeTemplate

variable {P : Element Unit} {templates others ts : List (Stocked Unit)}

/-- Another element takes the place of one in a tree. -/
lemma Stocked.Fit.put {ι : Type} {t u : Stocked ι} (h : t.Fit) (hu : u.Fit) (p : List Nat) :
    (put u p t).Fit := by
  induction p generalizing t with
  | nil => exact hu
  | cons i p ih =>
    cases t with
    | text label content => trivial
    | element label head stock children =>
      obtain ⟨hfew, hstock, hchildren⟩ := fit_element.1 h
      refine fit_element.2 ⟨hfew, hstock, fun c hc => ?_⟩
      obtain ⟨j, hj⟩ := List.getElem?_of_mem hc
      rw [Stocked.children, List.getElem?_modify] at hj
      obtain ⟨c', hc', rfl⟩ := Option.map_eq_some_iff.1 hj
      have hfit := hchildren c' (List.mem_of_getElem? hc')
      split
      · exact ih hfit
      · exact hfit

/-- The stock of an element and of the elements below it fits. -/
def Element.Fit (P : Element Unit) : Prop :=
  P.whole.Fit

namespace Element.Fit

/-- The stock still fits when trees whose stock fits are put below an element. -/
lemma fill (h : P.Fit) (hts : ∀ t ∈ ts, t.Fit) : (P.fill ts).Fit := by
  obtain ⟨hfew, hstock, -⟩ := Stocked.fit_element.1 h
  exact Stocked.fit_element.2 ⟨hfew, hstock, hts⟩

/-- How an element looks does not count. -/
lemma edit (h : P.Fit) (f : Tree Unit → Tree Unit) : (P.edit f).Fit :=
  Stocked.fit_element.2 (Stocked.fit_element.1 h)

/-- The stock of what is below an element fits if that of the element does. -/
lemma children (h : P.Fit) : ∀ t ∈ P.children, t.Fit :=
  (Stocked.fit_element.1 h).2.2

/-- The stock still fits when the texts are removed. -/
lemma removeText (h : P.Fit) : P.removeText.Fit :=
  h.fill fun t ht => h.children t (List.mem_of_mem_filter ht)

/-- Elements below an element are taken into its stock. -/
lemma stockUp (h : P.Fit) (hfew : templates.length ≤ 2)
    (htemplates : ∀ t ∈ templates, t ∈ P.elements)
    (hothers : ∀ t ∈ others, t ∈ P.children) : (P.stockUp templates others).Fit := by
  refine Stocked.fit_element.2 ⟨hfew, fun t ht => ?_, fun t ht => h.children t (hothers t ht)⟩
  obtain ⟨hmem, helement⟩ := List.mem_filter.1 (htemplates t ht)
  exact ⟨helement, h.children t hmem⟩

/-- The stock still fits after a touch. -/
lemma apply (touch : Touch) (P : Element Unit) (h : P.Fit) : (touch.apply P).Fit := by
  cases touch with
  | put name value? => cases value? <;> exact h.edit _
  | toggle name on => cases on <;> exact h.edit _
  | removeText => exact h.removeText
  | fillText content => exact h.fill (List.forall_mem_singleton.2 trivial)
  | recover => exact h
  | refuse => exact h

end Element.Fit

namespace Local

variable {c : Setting} {ds : Directives} {scope : Value} {positions : List Nat}
  {walk : List Nat → Value → Local (Element Unit) Unit}
  {enter : List Nat → Value → Bool → Local (Element Unit) Unit} {act : Local (Element Unit) Unit}
  {operand : String}

/-! ## Filling an element -/

/-- Clearing an element leaves a stock that fits. -/
lemma keeps_fit_clear : Keeps Element.Fit clear :=
  Keeps.change fun _ h => h.fill (by simp)

/-- Removing texts leaves a stock that fits. -/
lemma keeps_fit_removeText : Keeps Element.Fit removeText :=
  Keeps.change fun _ h => h.removeText

/-- Filling in a text leaves a stock that fits. -/
lemma keeps_fit_fillText (content : String) : Keeps Element.Fit (fillText content) :=
  Keeps.change fun _ h => h.fill (List.forall_mem_singleton.2 trivial)

/-- Hiding or showing an element leaves a stock that fits. -/
lemma keeps_fit_setHidden (hidden : Bool) : Keeps Element.Fit (setHidden hidden) :=
  Keeps.change fun _ h => h.edit _

/-- Appending an option leaves a stock that fits. -/
lemma keeps_fit_appendOption (item : Value) : Keeps Element.Fit (appendOption item) := by
  unfold appendOption
  split
  · exact .refuse _
  · refine .change fun P h => h.fill (List.forall_mem_append.2 ⟨h.children, ?_⟩)
    exact List.forall_mem_singleton.2
      (Stocked.fit_element.2 (by simp [Stocked.Fit, Stocked.AllBut]))

/-- Taking the template of a list leaves a stock that fits. -/
lemma keeps_fit_itemTemplate : Keeps Element.Fit itemTemplate := by
  intro P h
  unfold itemTemplate
  split
  · exact h
  · exact h
  · split
    · rename_i helements
      exact h.stockUp (by simp) (by simp [helements]) fun t ht => List.mem_of_mem_eraseP ht
    · exact h

/-- Taking the templates of a map leaves a stock that fits. -/
lemma keeps_fit_entryTemplates : Keeps Element.Fit entryTemplates := by
  intro P h
  unfold entryTemplates
  split
  · exact h
  · exact h
  · split
    · rename_i helements
      exact h.stockUp (by simp) (by simp [helements])
        fun t ht => List.mem_of_mem_eraseP (List.mem_of_mem_eraseP ht)
    · exact h
    · exact h

/-- Whatever an element is filled with from templates fits, since copies have no stock. -/
lemma keeps_fit_copying {β : Type} {operator : Operator} {take : Local (Element Unit) β}
    {fillIn : β → Local (Element Unit) Unit} (htakes : Takes take) (honly : OnlyAssertions take)
    (hfills : ∀ b, FillsAnyElement (fillIn b)) (htake : Keeps Element.Fit take)
    (hfillIn : ∀ b, Keeps Element.Fit (fillIn b)) :
    Keeps Element.Fit (copying operator operand take fillIn) := by
  refine .copying htakes honly hfills htake fun P b us h _ hus => (htake P h).fill ?_
  rcases hus with rfl | ⟨Q, rfl⟩
  · simp
  -- what is filled in does not depend on the element, so an empty one does as well
  · obtain ⟨result, us, notes, hall⟩ := hfills b
    have hempty : (P.fill []).Fit := h.fill (by simp)
    have hfilled := hfillIn b _ hempty
    rw [hall] at hfilled ⊢
    exact hfilled.children

/-- Filling in copies leaves a stock that fits if walking them does. -/
lemma keeps_fit_expand (hwalk : ∀ inside value, Keeps Element.Fit (walk inside value))
    (ordered : Bool) (servings : List (List (Stocked Unit × Value))) :
    Keeps Element.Fit (onChildren (expand positions ordered walk 1 servings)) := fun _ h =>
  h.fill (forall_expand (p := Stocked.Fit) hwalk (fun _ _ _ _ => Stocked.fit_ofTree _) 1 _
    h.children)

/-- An operator that fills an element leaves stock that fits. -/
lemma keeps_fit_content (hwalk : ∀ inside value, Keeps Element.Fit (walk inside value))
    (operator : ContentOperator) :
    Keeps Element.Fit (content c walk positions scope operand operator) := by
  cases operator with
  | text =>
    exact .guarded keeps_fit_removeText
      (.bind (.runText keeps_fit_removeText keeps_fit_fillText) fun _ => .pure _)
  | numbering =>
    exact .guarded keeps_fit_removeText (.bind (.runNumbering keeps_fit_fillText) fun _ => .pure _)
  | object => exact .guarded (.pure ()) (.bind .runObject fun _ => .pure _)
  | options =>
    exact .guarded keeps_fit_clear
      (.bind (.runOptions keeps_fit_clear keeps_fit_appendOption) fun _ => .pure _)
  | html =>
    refine .guarded keeps_fit_clear
      (.bind (.runHtml keeps_fit_clear fun P trees h => h.fill ?_) fun _ => .pure _)
    exact List.forall_mem_map.2 fun t _ => Stocked.fit_ofTree t
  | list ordered =>
    rw [content_list]
    refine keeps_fit_copying takes_itemTemplate .itemTemplate fillsAnyElement_list
      keeps_fit_itemTemplate
      fun template => ?_
    split
    · exact .pure ()
    · exact .bind (.check _) fun items => keeps_fit_expand hwalk ordered _
  | map ordered =>
    rw [content_map]
    refine keeps_fit_copying takes_entryTemplates .entryTemplates fillsAnyElement_map
      keeps_fit_entryTemplates
      fun templates => ?_
    split
    · exact .pure ()
    · exact .bind (.check _) fun entries => keeps_fit_expand hwalk ordered _

/-- Undoing an operator that fills an element leaves a stock that fits. -/
lemma keeps_fit_undoContent (operator : ContentOperator) : Keeps Element.Fit
    (undoContent operator) := by
  cases operator with
  | text => exact keeps_fit_removeText
  | numbering => exact keeps_fit_removeText
  | html => exact keeps_fit_clear
  | options => exact keeps_fit_clear
  | object => exact .pure ()
  | list _ => exact .bind keeps_fit_itemTemplate fun _ => keeps_fit_clear
  | map _ => exact .bind keeps_fit_entryTemplates fun _ => keeps_fit_clear

/-! ## Whole walks -/

/-- The elements below an element are walked one after another. -/
lemma keeps_fit_below (hact : Keeps Element.Fit act) : Keeps Element.Fit (below act) := by
  refine fun P h => h.fill (forall_sweep fun x hx => ?_)
  obtain ⟨t, ht, rfl⟩ := List.mem_map.1 hx
  exact ⟨h.children t ht, hact⟩

/-- The operators of an element leave a stock that fits if walking what is below does. -/
lemma keeps_fit_injectDirectives
    (henter : ∀ inside value isItem, Keeps Element.Fit (enter inside value isItem))
    (isItem : Bool) :
    Keeps Element.Fit (injectDirectives c enter positions ds scope isItem) := by
  have hfill : Keeps Element.Fit (fill c enter positions ds scope isItem) := by
    refine .bind (keeps_contentOperator isItem) fun content? => .bind ?_ fun inner? => ?_
    · cases content? with
      | none => exact .pure _
      | some declared => exact keeps_fit_content (fun inside value => henter inside value true) _
    · cases inner? with
      | none => exact .pure ()
      | some inner => exact keeps_fit_below (henter positions inner false)
  exact .injectDirectives (.decorate Element.Fit.apply keeps_fit_setHidden ds) hfill

/-- Injecting a scope into an element and everything below it leaves stock that fits. -/
lemma keeps_fit_inject (room depth : Nat) (positions : List Nat) (scope : Value) (isItem : Bool) :
    Keeps Element.Fit (inject c room depth positions scope isItem) := by
  induction room generalizing depth positions scope isItem with
  | zero => exact fun _ h => h
  | succ room ih =>
    exact .bind (.directives _) fun ds => keeps_fit_injectDirectives (ih (depth + 1)) isItem

/-- Injecting a value into an element by itself leaves stock that fits. -/
lemma keeps_fit_injectSubtree (room depth : Nat) (positions : List Nat) (scope : Value) :
    Keeps Element.Fit (injectSubtree c room depth positions scope) := by
  cases room with
  | zero => exact fun _ h => h
  | succ room =>
    exact .bind (.directives _) fun ds => .bind .look fun P => .bind (.check _) fun ds =>
      keeps_fit_injectDirectives (keeps_fit_inject room (depth + 1)) false

/-- Bringing an element and everything below it back leaves stock that fits. -/
lemma keeps_fit_reset (dialect : Dialect) (room depth : Nat) :
    Keeps Element.Fit (reset dialect room depth) := by
  induction room generalizing depth with
  | zero => exact fun _ h => h
  | succ room ih =>
    refine .bind (.directives _) fun ds => .bind ?_ fun _ => .bind ?_ fun _ => .bind ?_ fun _ =>
      keeps_fit_below (ih (depth + 1))
    · exact .forM fun _ _ => .inOperator (.undoAttribute Element.Fit.apply _)
    · exact .unhide (keeps_fit_setHidden false)
    · unfold unfill
      split
      · exact .inOperator (keeps_fit_undoContent _)
      · exact .pure ()

end Local

end TreeTemplate
