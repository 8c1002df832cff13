import TreeTemplate.Operator
import TreeTemplate.Proofs.Stocked.Basic

/-!
# Elements by themselves

An element of a stocked tree without its label: what a walk sees of the element it is at,
and what it may change.

Main statements:

* `allBut_element`, `allBut_bare` — what holds of every element of a tree;
* `Stocked.Fit`, `Stocked.Tidy` — the templates of an element are at most two elements, and nothing
  was taken out of a template itself.
-/

namespace TreeTemplate

/-- An element without its label. -/
structure Element (ι : Type) where
  head : Head
  stock : List (Stocked ι)
  children : List (Stocked ι)

namespace Element

variable {ι : Type}

/-- The element with a label. -/
def labelled (P : Element ι) (label : ι) : Stocked ι :=
  .element label P.head P.stock P.children

/-- An element without the labels of the nodes below. -/
def bare (P : Element ι) : Element Unit :=
  ⟨P.head, P.stock.map Stocked.bare, P.children.map Stocked.bare⟩

/-- The element as a tree without labels. -/
def whole (P : Element Unit) : Stocked Unit :=
  P.labelled ()

/-- The element by itself, as an element of a tree. -/
def shell (P : Element ι) : Tree Unit :=
  .element () P.head.tag P.head.attrs P.head.hidden []

/-- An element with a label is without its labels what it is without the labels below. -/
@[simp]
lemma bare_labelled (P : Element ι) (label : ι) : (P.labelled label).bare = P.bare.whole :=
  Stocked.bare_element

end Element

namespace Stocked

variable {ι : Type}

mutual

/-- Every element of a tree, those of its templates included, has a property. What is below an
element to be skipped does not count. -/
def AllBut (skip : Head → Bool) (p : Element ι → Prop) : Stocked ι → Prop
  | element _ head stock children =>
    p ⟨head, stock, children⟩ ∧ AllButIn skip p stock ∧
      (skip head = false → AllButIn skip p children)
  | text _ _ => True

/-- Every element of several trees has a property. -/
def AllButIn (skip : Head → Bool) (p : Element ι → Prop) : List (Stocked ι) → Prop
  | [] => True
  | t :: ts => t.AllBut skip p ∧ AllButIn skip p ts

end

/-- Every element of a tree, those of its templates included, has a property. -/
abbrev All (p : Element ι → Prop) (t : Stocked ι) : Prop :=
  t.AllBut (fun _ => false) p

variable {skip : Head → Bool} {p q : Element ι → Prop} {label : ι} {head : Head}
  {stock children : List (Stocked ι)}

/-- Each of several trees has the property. -/
lemma allButIn_iff {ts : List (Stocked ι)} :
    AllButIn skip p ts ↔ ∀ t ∈ ts, t.AllBut skip p := by
  induction ts with
  | nil => simp [AllButIn]
  | cons t ts ih => simp [AllButIn, ih]

/-- A property holds of an element and of everything in its stock, and of what is below it unless
that is skipped. -/
lemma allBut_element : (element label head stock children).AllBut skip p ↔
    p ⟨head, stock, children⟩ ∧ (∀ t ∈ stock, t.AllBut skip p) ∧
      (skip head = false → ∀ t ∈ children, t.AllBut skip p) := by
  simp only [AllBut, allButIn_iff]

/-- A property holds of an element and of everything in its stock and below it. -/
lemma all_element : (element label head stock children).All p ↔
    p ⟨head, stock, children⟩ ∧ (∀ t ∈ stock, t.All p) ∧ ∀ t ∈ children, t.All p := by
  simp only [All, allBut_element, forall_const]

/-- What follows from a property of all elements holds of all of them. -/
lemma AllBut.mono (h : ∀ P, p P → q P) {t : Stocked ι} (ht : t.AllBut skip p) :
    t.AllBut skip q := by
  induction t using Stocked.induct with
  | element label head stock children hs hc =>
    obtain ⟨hp, hstock, hchildren⟩ := allBut_element.1 ht
    exact allBut_element.2 ⟨h _ hp, fun t m => hs t m (hstock t m),
      fun e t m => hc t m (hchildren e t m)⟩
  | text label content => trivial

/-- What holds of the elements without the labels below them. -/
lemma allBut_bare {p : Element Unit → Prop} {t : Stocked ι} :
    t.bare.AllBut skip p ↔ t.AllBut skip fun P => p P.bare := by
  induction t using Stocked.induct with
  | element label head stock children hs hc =>
    simp only [bare_element, allBut_element, List.forall_mem_map]
    exact and_congr Iff.rfl (and_congr (forall₂_congr hs)
      (imp_congr Iff.rfl (forall₂_congr hc)))
  | text label content => exact Iff.rfl

/-- A tree without templates has a property when its elements without templates have it. -/
lemma all_ofTree (h : ∀ head children, p ⟨head, [], children⟩) (t : Tree ι) :
    (ofTree t).All p := by
  induction t using Tree.induct with
  | element label tag attrs hidden children ih =>
    rw [ofTree_element, all_element]
    exact ⟨h _ _, by simp, by simpa using ih⟩
  | text label content => trivial

/-- The templates of an element are at most two, and they are elements. -/
def Fit (t : Stocked ι) : Prop :=
  t.All fun P => P.stock.length ≤ 2 ∧ ∀ template ∈ P.stock, template.isElement = true

/-- Nothing was taken out of a template itself. -/
def Tidy (t : Stocked ι) : Prop :=
  t.All fun P => ∀ template ∈ P.stock, template.stock = []

/-- The stock of an element fits if there are at most two elements in it, and that of everything in
it and below. -/
lemma fit_element : (element label head stock children).Fit ↔
    stock.length ≤ 2 ∧ (∀ template ∈ stock, template.isElement = true ∧ template.Fit) ∧
      ∀ t ∈ children, t.Fit := by
  simp only [Fit, all_element, forall₂_and, and_assoc]

/-- The stock of an element is tidy if its templates have nothing in stock, and so is that of
everything in it and below. -/
lemma tidy_element : (element label head stock children).Tidy ↔
    (∀ template ∈ stock, template.stock = [] ∧ template.Tidy) ∧ ∀ t ∈ children, t.Tidy := by
  simp only [Tidy, all_element, forall₂_and, and_assoc]

/-- Where nothing is in stock the stock fits. -/
lemma fit_ofTree (t : Tree ι) : (ofTree t).Fit :=
  all_ofTree (fun _ _ => ⟨Nat.zero_le _, by simp⟩) t

/-- Where nothing is in stock the stock is tidy. -/
lemma tidy_ofTree (t : Tree ι) : (ofTree t).Tidy :=
  all_ofTree (fun _ _ => by simp) t

/-- Labels do not matter for whether the stock fits. -/
lemma fit_bare {t : Stocked ι} : t.bare.Fit ↔ t.Fit := by
  simp only [Fit, All, allBut_bare, Element.bare, List.length_map, List.forall_mem_map,
    isElement_bare]

/-- Labels do not matter for whether the stock is tidy. -/
lemma tidy_bare {t : Stocked ι} : t.bare.Tidy ↔ t.Tidy := by
  have h (t : Stocked ι) : t.bare.stock = [] ↔ t.stock = [] := by
    cases t <;> simp [stock, bare]
  simp only [Tidy, All, allBut_bare, Element.bare, List.forall_mem_map, h]

/-- Whether an element declares that it is filled with markup. -/
def holdsMarkup (dialect : Dialect) (head : Head) : Bool :=
  head.attrs.any fun attr => dialect.operator? attr.1 == some (.content .html)

/-- No element is left by a jump, save those in markup that an element is filled with. -/
def Unjumped (dialect : Dialect) (t : Stocked ι) : Prop :=
  t.AllBut (holdsMarkup dialect) fun P =>
    ∀ attr ∈ P.head.attrs, dialect.operator? attr.1 ≠ some .jump

/-- A property of all elements holds of those of a copy if it holds of each without its stock. -/
lemma AllBut.copy (h : ∀ head stock children, p ⟨head, stock, children⟩ →
    p ⟨head, [], children.map Stocked.copy⟩) {t : Stocked ι} (ht : t.AllBut skip p) :
    t.copy.AllBut skip p := by
  induction t using Stocked.induct with
  | element label head stock children hs hc =>
    obtain ⟨hp, -, hchildren⟩ := allBut_element.1 ht
    have hcopy : (element label head stock children).copy =
        element label head [] (children.map Stocked.copy) := by
      simp [Stocked.copy, Function.comp_def]
    rw [hcopy, allBut_element]
    exact ⟨h _ _ _ hp, by simp, fun e => List.forall_mem_map.2 fun t ht =>
      hc t ht (hchildren e t ht)⟩
  | text label content => trivial

/-- A copy is left by no jump where the original is not. -/
lemma Unjumped.copy {dialect : Dialect} {t : Stocked ι} (h : t.Unjumped dialect) :
    t.copy.Unjumped dialect :=
  AllBut.copy (fun _ _ _ hp => hp) h

end Stocked

end TreeTemplate
