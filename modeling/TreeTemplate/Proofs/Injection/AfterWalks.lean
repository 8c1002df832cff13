import TreeTemplate.Proofs.Attributes.Undoing
import TreeTemplate.Proofs.Injection.Again
import TreeTemplate.Proofs.Injection.TemplatesIntact

/-!
# What becomes of a tree that was read

A tree that was read, and what injections and resets have made of it: the attributes differ in what
operators write, texts where operators fill them in, and nothing is kept of what was below a list, a
map, a selection or an element that is filled with markup, save for templates. Where no reset was
among them, the elements below an element that shows a text or a number are as they were, and an
element that shows a number outside of ordered lists and maps is.

Main statements:

* `afterWalks_ofTree` — a tree that was just read;
* `keeps_afterWalks_inject` — what an injection keeps, whether it succeeds or stops.
-/

namespace TreeTemplate

open Stocked (ofTree)

variable {d : Dialect} {resets : Bool}

namespace ContentOperator

/-- Whether an operator fills an element with something that was not below it. -/
def clears : ContentOperator → Bool
  | .html | .options => true
  | _ => false

/-- Whether an operator puts a text below an element. -/
def rewords : ContentOperator → Bool
  | .text | .numbering => true
  | _ => false

/-- Whether an operator puts a number below an element. -/
def numbers : ContentOperator → Bool
  | .numbering => true
  | _ => false

/-- Whether an operator fills an element with copies of a template. -/
def lists : ContentOperator → Bool
  | .list _ => true
  | _ => false

/-- Whether an operator fills an element with copies of two templates. -/
def maps : ContentOperator → Bool
  | .map _ => true
  | _ => false

end ContentOperator

namespace Head

variable {α β : Type}

/-- Whether an element declares a value and cannot have one. -/
def showsValue (d : Dialect) (h : Head) : Bool :=
  (h.setters d).any fun op => op.1 == .value && !h.shell.hasTag valueTags

/-- Whether the texts below an element are those that its operators put there. -/
def rewords (d : Dialect) (h : Head) : Bool :=
  h.showsValue d || h.fills d ContentOperator.rewords

/-- Whether injections leave the nodes below an element alone outside of ordered lists and maps. -/
def still (d : Dialect) (h : Head) : Bool :=
  h.fills d ContentOperator.numbers && !h.showsValue d

/-- An element that shows no number is not still. -/
lemma still_eq_false {h : Head} (hrewords : h.fills d ContentOperator.rewords = false) :
    h.still d = false := by
  have hnumbers : h.fills d ContentOperator.numbers = false := by
    refine List.any_eq_false.2 fun attr hattr hnumbers => ?_
    refine List.any_eq_false.1 hrewords attr hattr ?_
    split at hnumbers
    · rename_i operator hdeclared
      cases operator with
      | numbering => rfl
      | _ => cases hnumbers
    · cases hnumbers
  rw [still, hnumbers, Bool.false_and]

/-- The nodes below an element that its operators leave alone. -/
def settled (d : Dialect) (h : Head) (isElement : α → Bool) (ts : List α) : List α :=
  if h.rewords d then ts.filter isElement else ts

end Head

/-- The templates of an element in stock, if they were taken already. -/
inductive TakenIntoStock (d : Dialect) (h : Head) (ts : List (Tree Unit)) :
    List (Stocked Unit) → List (Stocked Unit) → Prop
  | untouched {children : List (Stocked Unit)}
    (hchildren : children.filter Stocked.isElement = (ts.filter Tree.isElement).map ofTree) :
    TakenIntoStock d h ts [] children
  | item {children : List (Stocked Unit)} (hlists : h.fills d ContentOperator.lists = true)
    {template : Tree Unit} {others : List (Tree Unit)}
    (hts : ts.filter Tree.isElement = template :: others) :
    TakenIntoStock d h ts [ofTree template] children
  | entry {children : List (Stocked Unit)} (hmaps : h.fills d ContentOperator.maps = true)
    {key value : Tree Unit} {others : List (Tree Unit)}
    (hts : ts.filter Tree.isElement = key :: value :: others) :
    TakenIntoStock d h ts [ofTree key, ofTree value] children

/-- What becomes of an element, where the nodes below it that are left alone are related as given.
It matters whether some of what was done were `resets`. -/
structure ElementAfterWalks (d : Dialect) (resets : Bool) (below : Tree Unit → Stocked Unit → Prop)
    (h : Head)
    (ts : List (Tree Unit)) (P : Element Unit) : Prop where
  head : h.AfterOperators d P.head
  bare : h.fills d ContentOperator.copies = false → P.stock = []
  taken : h.fills d ContentOperator.clears = false → h.fills d ContentOperator.copies = true →
    TakenIntoStock d h ts P.stock P.children
  kept : h.fills d ContentOperator.clears = false → h.fills d ContentOperator.copies = false →
    List.Forall₂ below (h.settled d Tree.isElement ts) (h.settled d Stocked.isElement P.children)
  unwalked : resets = false → h.fills d ContentOperator.clears = false →
    h.fills d ContentOperator.rewords = true →
      P.children.filter Stocked.isElement = (ts.filter Tree.isElement).map ofTree
  still : resets = false → h.still d = true → P.children = ts.map ofTree

/-- What becomes of a tree that was read. -/
inductive AfterWalks (d : Dialect) (resets : Bool) : Tree Unit → Stocked Unit → Prop
  | element {h head : Head} {ts : List (Tree Unit)} {stock children : List (Stocked Unit)}
    (hhead : h.AfterOperators d head)
    (hbare : h.fills d ContentOperator.copies = false → stock = [])
    (htaken : h.fills d ContentOperator.clears = false →
      h.fills d ContentOperator.copies = true → TakenIntoStock d h ts stock children)
    (hkept : h.fills d ContentOperator.clears = false →
      h.fills d ContentOperator.copies = false →
        List.Forall₂ (AfterWalks d resets) (h.settled d Tree.isElement ts)
          (h.settled d Stocked.isElement children))
    (hunwalked : resets = false → h.fills d ContentOperator.clears = false →
      h.fills d ContentOperator.rewords = true →
        children.filter Stocked.isElement = (ts.filter Tree.isElement).map ofTree)
    (hstill : resets = false → h.still d = true → children = ts.map ofTree) :
    AfterWalks d resets (.element () h.tag h.attrs h.hidden ts) (.element () head stock children)
  | text (content : String) : AfterWalks d resets (.text () content) (.text () content)

/-- What an element has to be like so that resetting it brings back what was there: it is left by no
jump and can get none, its classes have conditions, and a value that is shown in it replaces no
elements. -/
structure Element.Resettable (d : Dialect) (P : Element Unit) : Prop where
  jumpFree : P.head.JumpFree d
  unmarked : P.head.Unmarked d
  classed : P.head.Classed d
  shown : P.head.showsValue d = true → P.elements = []

/-- All elements of a tree can be brought back. -/
def Tree.Resettable (d : Dialect) (t : Tree Unit) : Prop :=
  (ofTree t).All (Element.Resettable d)

/-- The elements among trees with nothing in stock are those among the trees. -/
lemma filter_isElement_ofTrees (ts : List (Tree Unit)) :
    (ts.map ofTree).filter Stocked.isElement = (ts.filter Tree.isElement).map ofTree := by
  rw [List.filter_map]
  congr 1
  refine List.filter_congr fun t _ => ?_
  cases t <;> simp [Stocked.isElement, Stocked.ofTree, Tree.isElement]

/-- An element that shows a value was read with texts alone below it. -/
lemma Element.Resettable.elements_eq_nil {h : Head} {ts : List (Tree Unit)}
    (hresettable : (⟨h, [], ts.map ofTree⟩ : Element Unit).Resettable d)
    (hshows : h.showsValue d = true) :
    ts.filter Tree.isElement = [] := by
  have hnone : (ts.map ofTree).filter Stocked.isElement = [] := hresettable.shown hshows
  rw [filter_isElement_ofTrees] at hnone
  exact List.map_eq_nil_iff.1 hnone

/-- An element can be brought back by itself, and so can everything below it. -/
lemma Tree.resettable_element {tag : String} {attrs : List (String × String)} {hidden : Bool}
    {label : Unit} {ts : List (Tree Unit)} :
    (Tree.element label tag attrs hidden ts).Resettable d ↔
      (⟨⟨tag, attrs, hidden⟩, [], ts.map ofTree⟩ : Element Unit).Resettable d ∧
        ∀ t ∈ ts, t.Resettable d := by
  unfold Tree.Resettable
  rw [Stocked.ofTree_element, Stocked.all_element, List.forall_mem_map]
  simp

/-- A tree that was just read. -/
lemma afterWalks_ofTree (t : Tree Unit) : AfterWalks d resets t (ofTree t) := by
  induction t using Tree.induct with
  | text label content => exact .text content
  | element label tag attrs hidden children ih =>
    rw [Stocked.ofTree_element]
    let h : Head := ⟨tag, attrs, hidden⟩
    refine .element (h := h) (.refl d h) (fun _ => rfl) (fun _ _ => .untouched ?_) (fun _ _ => ?_)
      (fun _ _ _ => ?_) fun _ _ => rfl
    rotate_right
    · exact filter_isElement_ofTrees children
    · exact filter_isElement_ofTrees children
    · have hall : ∀ ts ⊆ children, List.Forall₂ (AfterWalks d resets) ts (ts.map ofTree) :=
        fun ts hts =>
        List.forall₂_map_right_iff.2 (List.forall₂_same.2 fun t ht => ih t (hts ht))
      unfold Head.settled
      split
      · rw [filter_isElement_ofTrees]
        exact hall _ (List.filter_subset_self _)
      · exact hall _ (List.Subset.refl _)

/-! ## What operators leave of an element -/

namespace TakenIntoStock

variable {h : Head} {ts : List (Tree Unit)} {P : Element Unit}

/-- Only the elements below an element count for its templates. -/
lemma congr {stock children us : List (Stocked Unit)}
    (htaken : TakenIntoStock d h ts stock children)
    (hus : us.filter Stocked.isElement = children.filter Stocked.isElement) :
    TakenIntoStock d h ts stock us := by
  cases htaken with
  | untouched hchildren => exact .untouched (hus.trans hchildren)
  | item hlists hts => exact .item hlists hts
  | entry hmaps hts => exact .entry hmaps hts

/-- The template of a list is its first element, taken or not. -/
lemma itemTemplate {template : Tree Unit} {others : List (Tree Unit)}
    (htaken : TakenIntoStock d h ts P.stock P.children)
    (hmaps : h.fills d ContentOperator.maps = false)
    (hts : ts.filter Tree.isElement = template :: others) : ∃ us,
    Local.itemTemplate P = ⟨.ok (ofTree template), P.stockUp [ofTree template] us, []⟩ := by
  obtain ⟨head, stock, children⟩ := P
  dsimp only at htaken
  cases htaken with
  | untouched hchildren =>
    rw [hts, List.map_cons] at hchildren
    unfold Local.itemTemplate Element.elements
    dsimp only
    rw [hchildren]
    exact ⟨_, rfl⟩
  | item hlists hts' =>
    rw [hts] at hts'
    cases hts'
    exact ⟨children, rfl⟩
  | entry hmaps' =>
    rw [hmaps] at hmaps'
    cases hmaps'

/-- The templates of a map are its first two elements, taken or not. -/
lemma entryTemplates {key value : Tree Unit} {others : List (Tree Unit)}
    (htaken : TakenIntoStock d h ts P.stock P.children)
    (hlists : h.fills d ContentOperator.lists = false)
    (hts : ts.filter Tree.isElement = key :: value :: others) : ∃ us,
    Local.entryTemplates P =
      ⟨.ok (ofTree key, ofTree value), P.stockUp [ofTree key, ofTree value] us, []⟩ := by
  obtain ⟨head, stock, children⟩ := P
  dsimp only at htaken
  cases htaken with
  | untouched hchildren =>
    rw [hts, List.map_cons, List.map_cons] at hchildren
    unfold Local.entryTemplates Element.elements
    dsimp only
    rw [hchildren]
    exact ⟨_, rfl⟩
  | item hlists' =>
    rw [hlists] at hlists'
    cases hlists'
  | entry hmaps hts' =>
    rw [hts] at hts'
    cases hts'
    exact ⟨children, rfl⟩

/-- A list without elements gives no template. -/
lemma itemTemplate_error (htaken : TakenIntoStock d h ts P.stock P.children)
    (hmaps : h.fills d ContentOperator.maps = false) (hts : ts.filter Tree.isElement = []) :
    ∃ f, Local.itemTemplate P = ⟨.error f, P, []⟩ := by
  obtain ⟨head, stock, children⟩ := P
  dsimp only at htaken
  cases htaken with
  | untouched hchildren =>
    rw [hts, List.map_nil] at hchildren
    unfold Local.itemTemplate Element.elements
    dsimp only
    rw [hchildren]
    exact ⟨_, rfl⟩
  | item hlists hts' =>
    rw [hts] at hts'
    cases hts'
  | entry hmaps' =>
    rw [hmaps] at hmaps'
    cases hmaps'

/-- A map with less than two elements gives no templates. -/
lemma entryTemplates_error (htaken : TakenIntoStock d h ts P.stock P.children)
    (hlists : h.fills d ContentOperator.lists = false)
    (hts : ∀ key value others, ts.filter Tree.isElement ≠ key :: value :: others) :
    ∃ f, Local.entryTemplates P = ⟨.error f, P, []⟩ := by
  obtain ⟨head, stock, children⟩ := P
  dsimp only at htaken
  cases htaken with
  | untouched hchildren =>
    unfold Local.entryTemplates Element.elements
    dsimp only
    rw [hchildren]
    cases helements : ts.filter Tree.isElement with
    | nil => exact ⟨_, rfl⟩
    | cons key others =>
      cases others with
      | nil => exact ⟨_, rfl⟩
      | cons value others => exact absurd helements (hts key value others)
  | item hlists' =>
    rw [hlists] at hlists'
    cases hlists'
  | entry hmaps hts' => exact absurd hts' (hts _ _ _)

end TakenIntoStock

namespace ElementAfterWalks

variable {h : Head} {ts : List (Tree Unit)} {P : Element Unit} {us : List (Stocked Unit)}
  {below : Tree Unit → Stocked Unit → Prop}

/-- What becomes of an element and of what is below it becomes of the tree. -/
lemma afterWalks (hwalked : ElementAfterWalks d resets (AfterWalks d resets) h ts P) :
    AfterWalks d resets (.element () h.tag h.attrs h.hidden ts) P.whole :=
  .element hwalked.head hwalked.bare hwalked.taken hwalked.kept hwalked.unwalked hwalked.still

/-- What becomes of a tree becomes of the element at its top and of what is below it. -/
lemma of_afterWalks (hafter : AfterWalks d resets (.element () h.tag h.attrs h.hidden ts) P.whole) :
    ElementAfterWalks d resets (AfterWalks d resets) h ts P := by
  generalize ht : Tree.element () h.tag h.attrs h.hidden ts = t at hafter
  generalize hu : P.whole = u at hafter
  cases hafter with
  | text content => cases ht
  | @element h' head ts' stock children hhead hbare htaken hkept hunwalked hstill =>
    obtain ⟨tag, attrs, hidden⟩ := h
    obtain ⟨tag', attrs', hidden'⟩ := h'
    cases ht
    cases hu
    exact ⟨hhead, hbare, htaken, hkept, hunwalked, hstill⟩

/-- Texts may change where operators put texts. -/
lemma reword (hwalked : ElementAfterWalks d resets below h ts P) (hrewords : h.rewords d = true)
    (hmoves : resets = false → h.still d = false)
    (hus : h.fills d ContentOperator.clears = false →
      us.filter Stocked.isElement = P.children.filter Stocked.isElement) :
    ElementAfterWalks d resets below h ts (P.fill us) := by
  refine ⟨hwalked.head, hwalked.bare, fun hclears hcopies => ?_, fun hclears hcopies => ?_,
    fun hresets hclears hrewords => ?_, fun hresets hstill => ?_⟩
  · exact (hwalked.taken hclears hcopies).congr (hus hclears)
  · have hkept := hwalked.kept hclears hcopies
    simp only [Head.settled, hrewords, if_true] at hkept ⊢
    rw [Element.fill, hus hclears]
    exact hkept
  · exact (hus hclears).trans (hwalked.unwalked hresets hclears hrewords)
  · rw [hmoves hresets] at hstill
    cases hstill

/-- Anything may be below an element that is filled with markup or options. -/
lemma fill (hwalked : ElementAfterWalks d resets below h ts P)
    (hclears : h.fills d ContentOperator.clears = true)
    (hmoves : resets = false → h.still d = false) : ElementAfterWalks d resets below h ts
    (P.fill us) := by
  refine ⟨hwalked.head, hwalked.bare, fun hnone => ?_, fun hnone => ?_, fun _ hnone => ?_,
    fun hresets hstill => ?_⟩
  · rw [hclears] at hnone
    cases hnone
  · rw [hclears] at hnone
    cases hnone
  · rw [hclears] at hnone
    cases hnone
  · rw [hmoves hresets] at hstill
    cases hstill

/-- Where there were no elements there are none. -/
lemma elements_eq_nil (hwalked : ElementAfterWalks d resets below h ts P)
    (hrewords : h.rewords d = true)
    (hclears : h.fills d ContentOperator.clears = false) (hts : ts.filter Tree.isElement = []) :
    P.children.filter Stocked.isElement = [] := by
  cases hcopies : h.fills d ContentOperator.copies with
  | false =>
    have hkept := hwalked.kept hclears hcopies
    simp only [Head.settled, hrewords, if_true, hts] at hkept
    exact List.forall₂_nil_left_iff.1 hkept
  | true =>
    obtain ⟨head, stock, children⟩ := P
    have htaken := hwalked.taken hclears hcopies
    dsimp only at htaken
    cases htaken with
    | untouched hchildren => rw [hchildren, hts, List.map_nil]
    | item hlists hts' =>
      rw [hts] at hts'
      cases hts'
    | entry hmaps hts' =>
      rw [hts] at hts'
      cases hts'

/-- An operator that sets attributes does its work. -/
lemma touched {touch : Touch} (hwalked : ElementAfterWalks d resets below h ts P)
    (hclassed : h.Classed d)
    (hunmarked : h.Unmarked d) (hshown : h.showsValue d = true → ts.filter Tree.isElement = [])
    {op : AttributeOperator × String} (hop : op ∈ h.setters d)
    (hcovers : op.1.Covers h.shell op.2 touch) : ElementAfterWalks d resets below h ts
    (touch.apply P) := by
  have hhead := hwalked.head.touched hclassed hunmarked hop hcovers
  have hready : ElementAfterWalks d resets below h ts
      ⟨⟨P.head.tag, touch.onAttrs P.head.attrs, P.head.hidden⟩, P.stock, P.children⟩ :=
    ⟨hhead, hwalked.bare, hwalked.taken, hwalked.kept, hwalked.unwalked, hwalked.still⟩
  have hshows (hvalue : op.1 = .value) (htag : h.shell.hasTag valueTags = false) :
      h.showsValue d = true :=
    List.any_eq_true.2 ⟨op, hop, by simp [hvalue, htag]⟩
  rw [Touch.apply_eq]
  cases touch with
  | removeText =>
    have hvalue := hshows hcovers.1 hcovers.2
    exact hready.reword (by simp [Head.rewords, hvalue]) (fun _ => by simp [Head.still, hvalue])
      fun _ => by simp [Touch.onChildren]
  | fillText content =>
    have hvalue := hshows hcovers.1 hcovers.2
    have hrewords : h.rewords d = true := by simp [Head.rewords, hvalue]
    refine hready.reword hrewords (fun _ => by simp [Head.still, hvalue]) fun hclears => ?_
    rw [hwalked.elements_eq_nil hrewords hclears (hshown hvalue)]
    rfl
  | _ => exact hready

/-- A condition hides an element or shows it. -/
lemma hide {ds : Directives} (hwalked : ElementAfterWalks d resets below h ts P)
    (hds : Directives.ofAttrs d h.shell.describe h.attrs = .ok ds)
    (hconditional : ds.conditional?.isSome = true) (hidden : Bool) :
    ElementAfterWalks d resets below h ts (P.edit (Tree.setHidden hidden)) := by
  refine ⟨⟨hwalked.head.agrees.trans ⟨rfl, rfl⟩, hwalked.head.attrs, fun ds' hds' hnone => ?_,
      hwalked.head.nodup⟩,
    hwalked.bare, hwalked.taken, hwalked.kept, hwalked.unwalked, hwalked.still⟩
  rw [hds] at hds'
  cases hds'
  rw [hnone] at hconditional
  cases hconditional

end ElementAfterWalks

/-! ## What an injection keeps -/

namespace Local

variable {h : Head} {ts : List (Tree Unit)} {P : Element Unit} {c : Setting} {ds : Directives}
  {scope : Value} {operand : String} {below : Tree Unit → Stocked Unit → Prop}
  {walk : List Nat → Value → Local (Element Unit) Unit}

/-- A text is put only where there are no elements. -/
lemma Keeps.runText_of_elements {R : Element Unit → Prop} (hremove : Keeps R Local.removeText)
    (hfill : ∀ P content, R P → P.elements = [] → R (P.fill [.text () content])) :
    Keeps R (Local.runText c scope operand) := by
  intro P hP
  unfold Local.runText
  split
  · exact hremove P hP
  · rw [look_bind]
    split
    · exact hP
    · rename_i helements
      have hnil : P.elements = [] := by simpa using helements
      cases Path.read c.model scope operand with
      | error cause => exact hP
      | ok value =>
        rw [check_ok_bind]
        split
        · exact hremove P hP
        · exact hremove P hP
        · cases c.display P.shell value with
          | error cause => exact hP
          | ok shown => exact hfill P shown hP hnil

/-- Removing the texts keeps what has become of an element whose texts count for nothing. -/
lemma keeps_elementAfterWalks_removeText (hrewords : h.rewords d = true)
    (hmoves : resets = false → h.still d = false) :
    Keeps (ElementAfterWalks d resets below h ts) removeText :=
  Keeps.change fun P hP => hP.reword hrewords hmoves fun _ => by simp

/-- Putting anything below keeps what has become of an element that is cleared. -/
lemma keeps_elementAfterWalks_fill (hclears : h.fills d ContentOperator.clears = true)
    (hmoves : resets = false → h.still d = false) {f : Element Unit → List (Stocked Unit)} :
    Keeps (ElementAfterWalks d resets below h ts) (change fun P => P.fill (f P)) :=
  Keeps.change fun _ hP => hP.fill hclears hmoves

/-- Taking a template into stock is all that becomes of a list. -/
lemma keeps_elementAfterWalks_itemTemplate (hclears : h.fills d ContentOperator.clears = false)
    (hlists : h.fills d ContentOperator.lists = true)
    (hmaps : h.fills d ContentOperator.maps = false)
    (hcopies : h.fills d ContentOperator.copies = true)
    (hmoves : resets = false → h.fills d ContentOperator.rewords = false)
    (hP : ElementAfterWalks d resets below h ts P) :
    (∃ f, itemTemplate P = ⟨.error f, P, []⟩) ∨
      ∀ us, ElementAfterWalks d resets below h ts ((itemTemplate P).state.fill us) := by
  have htaken := hP.taken hclears hcopies
  cases hts : ts.filter Tree.isElement with
  | nil => exact .inl (htaken.itemTemplate_error hmaps hts)
  | cons template others =>
    obtain ⟨vs, htake⟩ := htaken.itemTemplate hmaps hts
    refine .inr fun us => ?_
    rw [htake]
    refine ⟨hP.head, fun hnone => ?_, fun _ _ => .item hlists hts, fun _ hnone => ?_,
      fun hresets _ hrewords => ?_, fun hresets hstill => ?_⟩
    · rw [hcopies] at hnone
      cases hnone
    · rw [hcopies] at hnone
      cases hnone
    · rw [hmoves hresets] at hrewords
      cases hrewords
    · rw [Head.still_eq_false (hmoves hresets)] at hstill
      cases hstill

/-- Taking two templates into stock is all that becomes of a map. -/
lemma keeps_elementAfterWalks_entryTemplates (hclears : h.fills d ContentOperator.clears = false)
    (hlists : h.fills d ContentOperator.lists = false)
    (hmaps : h.fills d ContentOperator.maps = true)
    (hcopies : h.fills d ContentOperator.copies = true)
    (hmoves : resets = false → h.fills d ContentOperator.rewords = false)
    (hP : ElementAfterWalks d resets below h ts P) :
    (∃ f, entryTemplates P = ⟨.error f, P, []⟩) ∨
      ∀ us, ElementAfterWalks d resets below h ts ((entryTemplates P).state.fill us) := by
  have htaken := hP.taken hclears hcopies
  by_cases hts : ∃ key value others, ts.filter Tree.isElement = key :: value :: others
  · obtain ⟨key, value, others, hts⟩ := hts
    obtain ⟨vs, htake⟩ := htaken.entryTemplates hlists hts
    refine .inr fun us => ?_
    rw [htake]
    refine ⟨hP.head, fun hnone => ?_, fun _ _ => .entry hmaps hts, fun _ hnone => ?_,
      fun hresets _ hrewords => ?_, fun hresets hstill => ?_⟩
    · rw [hcopies] at hnone
      cases hnone
    · rw [hcopies] at hnone
      cases hnone
    · rw [hmoves hresets] at hrewords
      cases hrewords
    · rw [Head.still_eq_false (hmoves hresets)] at hstill
      cases hstill
  · refine .inl (htaken.entryTemplates_error hlists fun key value others he => ?_)
    exact hts ⟨key, value, others, he⟩

/-- An operator that takes templates leaves nothing but these as they were. -/
lemma keeps_elementAfterWalks_copying {β : Type} {operator : Operator}
    {take : Local (Element Unit) β}
    {fillIn : β → Local (Element Unit) Unit} (htakes : Takes take) (honly : OnlyAssertions take)
    (hfillIn : ∀ b, FillsAnyElement (fillIn b))
    (htake : ∀ P, ElementAfterWalks d resets below h ts P → (∃ f, take P = ⟨.error f, P, []⟩) ∨
      ∀ us, ElementAfterWalks d resets below h ts ((take P).state.fill us)) :
    Keeps (ElementAfterWalks d resets below h ts) (copying operator operand take fillIn) := by
  refine .copying htakes honly hfillIn (fun P hP => ?_) fun P b us hP hok _ => ?_
  · rcases htake P hP with ⟨f, he⟩ | hall
    · rw [he]
      exact hP
    · exact hall (take P).state.children
  · rcases htake P hP with ⟨f, he⟩ | hall
    · rw [he] at hok
      cases hok
    · exact hall us

/-- Outside of ordered lists and maps there is no position to show, and nothing is done. -/
lemma state_numbering : (content c walk [] scope operand .numbering P).state = P := by
  cases hparse : Numbering.parse operand with
  | error error =>
    have hrun : run c walk [] scope operand .numbering P =
        ⟨.error ⟨.malformed error, none⟩, P, []⟩ := by
      simp only [run, runNumbering, hparse]
      rfl
    simp only [content, guarded, orElse, inOperator, hrun]
    rfl
  | ok format =>
    have hrun : run c walk [] scope operand .numbering P =
        ⟨.error ⟨.numberingOutside, none⟩, P, []⟩ := by
      simp only [run, runNumbering, hparse]
      rfl
    simp only [content, guarded, orElse, inOperator, hrun]
    rfl

/-- What an operator that fills an element keeps outside of ordered lists and maps. -/
lemma keeps_elementAfterWalks_content {operator : ContentOperator}
    (hds : Directives.ofAttrs d h.shell.describe h.attrs = .ok ds)
    (hcontent : ds.content? = some (operator, operand)) :
    Keeps (ElementAfterWalks d resets below h ts) (content c walk [] scope operand operator) := by
  have hfills (p : ContentOperator → Bool) : h.fills d p = p operator := by
    rw [Head.fills_of_content? hds p, hcontent]
    rfl
  have hmoves (hnumbers : operator.numbers = false) : resets = false → h.still d = false :=
    fun _ => by rw [Head.still, hfills, hnumbers, Bool.false_and]
  have hrewords (hnone : operator.rewords = false) :
      resets = false → h.fills d ContentOperator.rewords = false :=
    fun _ => (hfills _).trans hnone
  cases operator with
  | text =>
    have hrewords : h.rewords d = true := by
      simp [Head.rewords, hfills, ContentOperator.rewords]
    refine .guarded (keeps_elementAfterWalks_removeText hrewords (hmoves rfl))
      (.bind (.runText_of_elements (keeps_elementAfterWalks_removeText hrewords (hmoves rfl)) ?_)
        fun _ => .pure _)
    intro P content hP hnone
    exact hP.reword hrewords (hmoves rfl) fun _ => Eq.symm hnone
  | numbering =>
    intro P hP
    rwa [state_numbering]
  | object => exact .guarded (.pure ()) (.bind .runObject fun _ => .pure _)
  | html =>
    have hclears : h.fills d ContentOperator.clears = true := hfills _
    exact .guarded (keeps_elementAfterWalks_fill hclears (hmoves rfl))
      (.bind (.runHtml (keeps_elementAfterWalks_fill hclears (hmoves rfl))
        fun P trees hP => hP.fill hclears (hmoves rfl)) fun _ => .pure _)
  | options =>
    have hclears : h.fills d ContentOperator.clears = true := hfills _
    refine .guarded (keeps_elementAfterWalks_fill hclears (hmoves rfl))
      (.bind (.runOptions (keeps_elementAfterWalks_fill hclears (hmoves rfl)) fun item => ?_)
        fun _ => .pure _)
    unfold appendOption
    split
    · exact .refuse _
    · exact keeps_elementAfterWalks_fill hclears (hmoves rfl)
  | list ordered =>
    rw [content_list]
    exact keeps_elementAfterWalks_copying takes_itemTemplate .itemTemplate fillsAnyElement_list
      fun P hP =>
      keeps_elementAfterWalks_itemTemplate (hfills _) (hfills _) (hfills _) (hfills _)
        (hrewords rfl) hP
  | map ordered =>
    rw [content_map]
    exact keeps_elementAfterWalks_copying takes_entryTemplates .entryTemplates fillsAnyElement_map
      fun P hP =>
      keeps_elementAfterWalks_entryTemplates (hfills _) (hfills _) (hfills _) (hfills _)
        (hrewords rfl) hP

/-- Elements side by side are left as they are or walked. -/
lemma forall₂_sweep (act : Local (Element Unit) Unit) (us : List (Stocked Unit)) :
    List.Forall₂ (fun t u => u = t ∨ ∃ P : Element Unit, t = P.whole ∧ u = (act P).state.whole) us
      (sweep (us.map fun t => (t, act))).state := by
  induction us with
  | nil => exact .nil
  | cons t us ih =>
    have hfirst : (onElement act t).state = t ∨
        ∃ P : Element Unit, t = P.whole ∧ (onElement act t).state = (act P).state.whole := by
      cases t with
      | text => exact .inl rfl
      | element label head stock children => exact .inr ⟨⟨head, stock, children⟩, rfl, rfl⟩
    rcases e : onElement act t with ⟨f | _, u, notes⟩
    · rw [List.map_cons, sweep_cons_of_error e]
      rw [e] at hfirst
      refine .cons hfirst ?_
      rw [List.map_map]
      simp only [Function.comp_def, List.map_id']
      exact List.forall₂_same.2 fun _ _ => .inl rfl
    · rw [List.map_cons, sweep_cons_of_ok e]
      rw [e] at hfirst
      exact .cons hfirst ih

/-- Lists that are related to one list in turn are related to each other. -/
lemma forall₂_comp {α β γ : Type} {r : α → β → Prop} {s : β → γ → Prop} {t : α → γ → Prop}
    {xs : List α} {ys : List β} {zs : List γ} (hr : List.Forall₂ r xs ys)
    (hs : List.Forall₂ s ys zs) (h : ∀ x ∈ xs, ∀ y z, r x y → s y z → t x z) :
    List.Forall₂ t xs zs := by
  induction hr generalizing zs with
  | nil =>
    cases hs
    exact .nil
  | cons hxy _ ih =>
    cases hs with
    | cons hyz hs =>
      exact .cons (h _ List.mem_cons_self _ _ hxy hyz)
        (ih hs fun x hx => h x (List.mem_cons_of_mem _ hx))

/-- Walking below an element keeps what the walk keeps of the elements below it. -/
lemma keeps_elementAfterWalks_below {act : Local (Element Unit) Unit}
    (hcopies : h.fills d ContentOperator.copies = false)
    (hmoves : resets = false → h.fills d ContentOperator.rewords = false)
    (hact : ∀ t ∈ ts, Keeps (fun P => AfterWalks d resets t P.whole) act) :
    Keeps (ElementAfterWalks d resets (AfterWalks d resets) h ts) (Local.below act) := by
  intro P hP
  refine ⟨hP.head, hP.bare, fun _ htrue => ?_, fun hclears _ => ?_, fun hresets _ hrewords => ?_,
    fun hresets hstill => ?_⟩
  rotate_right 2
  · rw [hmoves hresets] at hrewords
    cases hrewords
  · rw [Head.still_eq_false (hmoves hresets)] at hstill
    cases hstill
  · rw [hcopies] at htrue
    cases htrue
  · have hsweep := forall₂_sweep act P.children
    have hsettled : List.Forall₂
        (fun t u => u = t ∨ ∃ P : Element Unit, t = P.whole ∧ u = (act P).state.whole)
        (h.settled d Stocked.isElement P.children)
        (h.settled d Stocked.isElement (Local.below act P).state.children) := by
      unfold Head.settled
      split
      · refine List.rel_filter (fun t u htu => ?_) hsweep
        rcases htu with rfl | ⟨P, rfl, rfl⟩ <;> rfl
      · exact hsweep
    refine forall₂_comp (hP.kept hclears hcopies) hsettled fun t ht u v htu huv => ?_
    have hmem : t ∈ ts := by
      unfold Head.settled at ht
      split at ht
      · exact (List.mem_filter.1 ht).1
      · exact ht
    rcases huv with rfl | ⟨Q, rfl, rfl⟩
    · exact htu
    · exact hact t hmem Q htu

/-- What filling an element keeps outside of ordered lists and maps. -/
lemma keeps_elementAfterWalks_fillContent
    {enter : List Nat → Value → Bool → Local (Element Unit) Unit}
    (hds : Directives.ofAttrs d h.shell.describe h.attrs = .ok ds)
    (henter : ∀ inner, ∀ t ∈ ts, Keeps (fun P => AfterWalks d resets t P.whole)
      (enter [] inner false)) :
    Keeps (ElementAfterWalks d resets (AfterWalks d resets) h ts)
    (fill c enter [] ds scope false) := by
  have hfills := Head.fills_of_content? hds
  rw [fill_eq]
  cases hcontent : ds.content? with
  | none =>
    rw [hcontent] at hfills
    exact keeps_elementAfterWalks_below (hfills _) (fun _ => hfills _) (henter scope)
  | some declared =>
    obtain ⟨operator, operand⟩ := declared
    rw [hcontent] at hfills
    have hkeeps :
        Keeps (ElementAfterWalks d resets (AfterWalks d resets) h ts)
          (content c (fun inside value =>
        enter inside value true) [] scope operand operator) :=
          keeps_elementAfterWalks_content hds hcontent
    refine .bind_after hkeeps fun P inner? hP hinner => ?_
    have hkept := hkeeps P hP
    cases inner? with
    | none => exact hkept
    | some inner =>
      obtain ⟨rfl, -⟩ := content_some operator hinner
      exact keeps_elementAfterWalks_below (hfills _) (fun _ => hfills _) (henter inner) _ hkept

/-- What decorating an element keeps. -/
lemma keeps_elementAfterWalks_decorate
    (hresettable : (⟨h, [], ts.map ofTree⟩ : Element Unit).Resettable d)
    (hds : Directives.ofAttrs d h.shell.describe h.attrs = .ok ds) :
    Keeps (ElementAfterWalks d resets below h ts) (decorate c ds scope) := by
  refine .decorate_covered (t := h.shell) (fun Q hQ => hQ.head.agrees.1)
    (fun op hop touch hcovers Q hQ => ?_) fun hconditional hidden =>
      .change fun Q hQ => hQ.hide hds hconditional hidden
  rw [Head.attributes_eq hds] at hop
  exact hQ.touched hresettable.classed hresettable.unmarked hresettable.elements_eq_nil hop hcovers

/-- What an injection keeps, whether it succeeds or stops. -/
lemma keeps_afterWalks_inject (room depth : Nat) (scope : Value) {t : Tree Unit}
    (ht : t.Resettable c.engine.dialect) :
    Keeps (fun P => AfterWalks c.engine.dialect resets t P.whole)
    (inject c room depth [] scope false) := by
  induction room generalizing depth scope t with
  | zero => exact fun _ h => h
  | succ room ih =>
    cases t with
    | text => exact fun P hP => nomatch hP
    | element label tag attrs hidden ts =>
      let h : Head := ⟨tag, attrs, hidden⟩
      obtain ⟨hresettable, hchildren⟩ := Tree.resettable_element.1 ht
      refine .directives_bind fun P ds hP hds => ?_
      have hwalked : ElementAfterWalks c.engine.dialect resets (AfterWalks c.engine.dialect resets)
          h ts P := .of_afterWalks hP
      have hds' : Directives.ofAttrs c.engine.dialect h.shell.describe h.attrs = .ok ds :=
        Directives.ofAttrs_congr hds hwalked.head.agrees.symm.2
      have hkept :
          Keeps (ElementAfterWalks c.engine.dialect resets
            (AfterWalks c.engine.dialect resets) h ts)
          (injectDirectives c (inject c room (depth + 1)) [] ds scope false) :=
        .injectDirectives (keeps_elementAfterWalks_decorate hresettable hds')
          (keeps_elementAfterWalks_fillContent hds' fun inner t ht => ih (depth + 1) inner
            (hchildren t ht))
      exact (hkept P hwalked).afterWalks

end Local

end TreeTemplate
