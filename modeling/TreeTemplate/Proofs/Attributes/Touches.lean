import TreeTemplate.Proofs.Attributes.Lists
import TreeTemplate.Proofs.Content.Refill
import TreeTemplate.Proofs.Local.Attributes

/-!
# What touches leave behind

A touch changes the attributes of an element or the texts below it, and each of the two without a
look at the other. Touches that write different attributes or different classes do not undo one
another, so playing them once more changes nothing.

Main statements:

* `Touch.apply_eq` — what a touch makes of an element;
* `attrsAfter_again` — playing touches once more;
* `childrenAfter_eq` — what touches make of the nodes below an element.
-/

namespace TreeTemplate

open TreeTemplate.Tree

namespace Touch

/-- What a touch makes of the attributes of an element. -/
def onAttrs : Touch → List (String × String) → List (String × String)
  | put name (some value), attrs => replaceAttr name value attrs
  | put name none, attrs => attrs.filter (·.1 ≠ name)
  | toggle name true, attrs => addClassIn name attrs
  | toggle name false, attrs => removeClassIn name attrs
  | _, attrs => attrs

/-- What a touch makes of the nodes below an element. -/
def onChildren : Touch → List (Stocked Unit) → List (Stocked Unit)
  | removeText, ts => ts.filter Stocked.isElement
  | fillText content, _ => [.text () content]
  | _, ts => ts

/-- The attribute that a touch writes. -/
def name? : Touch → Option String
  | put name _ => some name
  | toggle _ _ => some "class"
  | _ => none

/-- The class that a touch adds or removes is one. -/
def Proper : Touch → Prop
  | toggle name _ => IsClass name
  | _ => True

/-- Two touches write different attributes, or different classes. -/
def Apart : Touch → Touch → Prop
  | toggle name _, toggle other _ => name ≠ other
  | touch, other => ∀ name, touch.name? = some name → other.name? ≠ some name

/-- What a touch writes stands there already. -/
def Settled : Touch → List (String × String) → Prop
  | put name value?, attrs => attrs.lookup name = value?
  | toggle name true, attrs => name ∈ classesIn attrs
  | toggle name false, attrs => name ∉ classesIn attrs ∧ NormalClass attrs
  | _, _ => True

end Touch

namespace Tree

variable {ι : Type} {label : ι} {tag name : String} {attrs : List (String × String)}
  {hidden : Bool} {children : List (Tree ι)}

/-- A class that an element gets is written into its attributes. -/
lemma addClass_element : addClass name (element label tag attrs hidden children) =
    element label tag (addClassIn name attrs) hidden children := by
  have hclasses : (element label tag attrs hidden children).classes = classesIn attrs := rfl
  unfold addClass addClassIn
  rw [hclasses]
  split <;> rfl

/-- A class that an element loses is taken out of its attributes. -/
lemma removeClass_element : removeClass name (element label tag attrs hidden children) =
    element label tag (removeClassIn name attrs) hidden children := by
  have hattr : (element label tag attrs hidden children).attr? "class" = attrs.lookup "class" :=
    rfl
  have hclasses (value : String) (h : attrs.lookup "class" = some value) :
      (element label tag attrs hidden children).classes = classesOf value := by
    change classesOf ((attrs.lookup "class").getD "") = _
    rw [h, Option.getD_some]
  unfold removeClass removeClassIn
  rw [hattr]
  cases hlookup : attrs.lookup "class" with
  | none => rfl
  | some value =>
    dsimp only
    rw [hclasses value hlookup, ← joinClasses]
    split <;> rfl

end Tree

namespace Touch

/-- A touch does something to the attributes and something to what is below. -/
lemma apply_eq (touch : Touch) (P : Element Unit) : touch.apply P =
    ⟨⟨P.head.tag, touch.onAttrs P.head.attrs, P.head.hidden⟩, P.stock,
      touch.onChildren P.children⟩ := by
  cases touch with
  | put name value? => cases value? <;> rfl
  | toggle name on =>
    cases on with
    | true =>
      simp only [apply, Element.edit, Element.shell, addClass_element]
      rfl
    | false =>
      simp only [apply, Element.edit, Element.shell, removeClass_element]
      rfl
  | removeText => rfl
  | fillText content => rfl
  | recover cause => rfl
  | refuse cause => rfl

/-! ## Touches that are played once more -/

variable {touch other : Touch} {attrs : List (String × String)}

/-- What a touch has written stands there. -/
lemma settled_onAttrs (h : touch.Proper) (attrs : List (String × String)) :
    touch.Settled (touch.onAttrs attrs) := by
  cases touch with
  | put name value? =>
    cases value? with
    | none => exact lookup_filter_ne_self name attrs
    | some value => exact lookup_replaceAttr_self name value attrs
  | toggle name on =>
    cases on with
    | true =>
      simp only [Settled, onAttrs, classesIn_addClassIn h]
      split
      · assumption
      · simp
    | false =>
      refine ⟨?_, normalClass_removeClassIn name attrs⟩
      simp [onAttrs, classesIn_removeClassIn]
  | _ => trivial

/-- A touch whose work is done already changes nothing. -/
lemma Settled.onAttrs_eq (h : touch.Settled attrs) : touch.onAttrs attrs = attrs := by
  cases touch with
  | put name value? =>
    cases value? with
    | none => exact filter_of_lookup_none h
    | some value => exact replaceAttr_of_lookup h
  | toggle name on =>
    cases on with
    | true => exact if_pos h
    | false => exact removeClassIn_eq_self h.2 h.1
  | _ => rfl

/-- A touch leaves the attributes of other names as they are. -/
lemma filter_onAttrs (p : String → Bool) (h : ∀ name, touch.name? = some name → p name = false)
    (attrs : List (String × String)) : (touch.onAttrs attrs).filter (fun attr => p attr.1) =
      attrs.filter fun attr => p attr.1 := by
  cases touch with
  | put name value? =>
    cases value? with
    | none =>
      simp only [onAttrs, List.filter_filter]
      refine List.filter_congr fun attr _ => ?_
      by_cases hattr : attr.1 = name
      · simp [hattr, h name rfl]
      · simp [hattr]
    | some value =>
      simp only [onAttrs, filter_replaceAttr, h name rfl]
      rfl
  | toggle name on =>
    cases on with
    | true => exact filter_addClassIn p (h "class" rfl) name attrs
    | false => exact filter_removeClassIn p (h "class" rfl) name attrs
  | _ => rfl

/-- A touch leaves the attributes that it does not write as they are. -/
lemma lookup_onAttrs {name : String} (h : touch.name? ≠ some name)
    (attrs : List (String × String)) : (touch.onAttrs attrs).lookup name = attrs.lookup name := by
  have hfilter := @filter_onAttrs touch (fun found => found == name)
    (fun found hfound => beq_false_of_ne fun e => h (e ▸ hfound)) attrs
  have hself (attrs : List (String × String)) :
      (attrs.filter fun attr => attr.1 == name).lookup name = attrs.lookup name := by
    rw [lookup_filter (fun found => found == name)]
    simp
  rw [← hself, hfilter, hself]

/-- Whether the attribute for classes is normal depends on its value alone. -/
lemma normalClass_of_lookup {attrs' : List (String × String)}
    (h : attrs'.lookup "class" = attrs.lookup "class") (hn : NormalClass attrs) :
    NormalClass attrs' :=
  fun value hvalue => hn value (h ▸ hvalue)

/-- Which classes there are depends on the value of the attribute for them alone. -/
lemma classesIn_of_lookup {attrs' : List (String × String)}
    (h : attrs'.lookup "class" = attrs.lookup "class") : classesIn attrs' = classesIn attrs := by
  unfold classesIn
  rw [h]

/-- A touch leaves the work of another one that it is apart from. -/
lemma Settled.of_apart (h : touch.Settled attrs) (hother : other.Proper)
    (hapart : touch.Apart other) : touch.Settled (other.onAttrs attrs) := by
  cases touch with
  | put name value? =>
    have hname : other.name? ≠ some name := by
      cases other <;> exact hapart name rfl
    exact (lookup_onAttrs hname attrs).trans h
  | toggle name on =>
    by_cases hclass : other.name? = some "class"
    · cases other with
      | put found value? => exact absurd hclass (hapart "class" rfl)
      | toggle found on' =>
        have hne : name ≠ found := hapart
        cases on' with
        | true =>
          have hin : name ∈ classesIn (addClassIn found attrs) ↔ name ∈ classesIn attrs := by
            rw [classesIn_addClassIn hother]
            split <;> simp [hne]
          cases on with
          | true => exact hin.2 h
          | false => exact ⟨fun m => h.1 (hin.1 m), h.2.addClassIn hother⟩
        | false =>
          have hin : name ∈ classesIn (removeClassIn found attrs) ↔ name ∈ classesIn attrs := by
            simp [classesIn_removeClassIn, hne]
          cases on with
          | true => exact hin.2 h
          | false => exact ⟨fun m => h.1 (hin.1 m), normalClass_removeClassIn found attrs⟩
      | _ => exact h
    · have hlookup := lookup_onAttrs hclass attrs
      cases on with
      | true =>
        simp only [Settled, classesIn_of_lookup hlookup] at h ⊢
        exact h
      | false => exact ⟨classesIn_of_lookup hlookup ▸ h.1, normalClass_of_lookup hlookup h.2⟩
  | _ => trivial

end Touch

/-! ## Several touches -/

/-- What touches make of the attributes of an element. -/
def attrsAfter (touches : List Touch) (attrs : List (String × String)) :
    List (String × String) :=
  touches.foldl (fun attrs touch => touch.onAttrs attrs) attrs

/-- What touches make of the nodes below an element. -/
def childrenAfter (touches : List Touch) (ts : List (Stocked Unit)) : List (Stocked Unit) :=
  touches.foldl (fun ts touch => touch.onChildren ts) ts

/-- What touches make of an element. -/
def Element.after (touches : List Touch) (P : Element Unit) : Element Unit :=
  ⟨⟨P.head.tag, attrsAfter touches P.head.attrs, P.head.hidden⟩, P.stock,
    childrenAfter touches P.children⟩

variable {touches later : List Touch} {touch : Touch} {attrs : List (String × String)}

/-- The first of several touches comes first. -/
@[simp]
lemma Element.after_cons (touch : Touch) (touches : List Touch) (P : Element Unit) :
    P.after (touch :: touches) = (touch.apply P).after touches := by
  rw [Touch.apply_eq]
  rfl

/-- Touches come one after another. -/
lemma Element.after_append (touches later : List Touch) (P : Element Unit) :
    P.after (touches ++ later) = (P.after touches).after later := by
  simp only [Element.after, attrsAfter, childrenAfter, List.foldl_append]

/-- What is written stays written under touches that write something else. -/
lemma settled_attrsAfter_of (h : touch.Settled attrs) (hproper : ∀ other ∈ touches, other.Proper)
    (hapart : ∀ other ∈ touches, touch.Apart other) :
    touch.Settled (attrsAfter touches attrs) := by
  induction touches generalizing attrs with
  | nil => exact h
  | cons other touches ih =>
    exact ih (h.of_apart (hproper other (by simp)) (hapart other (by simp)))
      (fun _ hm => hproper _ (List.mem_cons_of_mem _ hm))
      (fun _ hm => hapart _ (List.mem_cons_of_mem _ hm))

/-- Touches that write different things leave all of it written. -/
lemma settled_attrsAfter (hproper : ∀ touch ∈ touches, touch.Proper)
    (hapart : touches.Pairwise Touch.Apart) (attrs : List (String × String)) :
    ∀ touch ∈ touches, touch.Settled (attrsAfter touches attrs) := by
  induction touches generalizing attrs with
  | nil => simp
  | cons first touches ih =>
    obtain ⟨hfirst, hrest⟩ := List.pairwise_cons.1 hapart
    have hlater : ∀ touch ∈ touches, touch.Proper :=
      fun _ hm => hproper _ (List.mem_cons_of_mem _ hm)
    intro touch hm
    rcases List.mem_cons.1 hm with rfl | hm
    · have hself := Touch.settled_onAttrs (hproper touch (by simp)) attrs
      have hkept := settled_attrsAfter_of hself hlater hfirst
      exact hkept
    · exact ih hlater hrest _ touch hm

/-- Touches whose writing stands there already change no attribute. -/
lemma attrsAfter_of_settled (h : ∀ touch ∈ touches, touch.Settled attrs) :
    attrsAfter touches attrs = attrs := by
  induction touches with
  | nil => rfl
  | cons touch touches ih =>
    have hfirst := (h touch (by simp)).onAttrs_eq
    simp only [attrsAfter, List.foldl_cons, hfirst] at ih ⊢
    exact ih fun _ hm => h _ (List.mem_cons_of_mem _ hm)

/-- Touches that are apart from one another change no attribute when they are played once more. -/
lemma attrsAfter_again (hproper : ∀ touch ∈ touches, touch.Proper)
    (hapart : touches.Pairwise Touch.Apart) (attrs : List (String × String)) :
    attrsAfter touches (attrsAfter touches attrs) = attrsAfter touches attrs :=
  attrsAfter_of_settled (settled_attrsAfter hproper hapart attrs)

/-- What a touch makes of the nodes below an element. -/
def Touch.refill : Touch → Refill
  | removeText => .dropTexts
  | fillText content => .put [.text () content]
  | _ => .keep

/-- What touches make of the nodes below an element, in one. -/
def refillOf (touches : List Touch) : Refill :=
  touches.foldl (fun r touch => r.andThen touch.refill) .keep

/-- What a touch does to what is below an element is a refill. -/
lemma Touch.onChildren_eq (touch : Touch) (ts : List (Stocked Unit)) :
    touch.onChildren ts = touch.refill.apply ts := by
  cases touch <;> rfl

/-- Touches put no elements below an element. -/
lemma Touch.textual_refill (touch : Touch) : touch.refill.Textual := by
  cases touch <;> trivial

/-- The refills of touches one after another are one refill. -/
lemma childrenAfter_foldl (r : Refill) (touches : List Touch) (ts : List (Stocked Unit)) :
    childrenAfter touches (r.apply ts) =
      (touches.foldl (fun r touch => r.andThen touch.refill) r).apply ts := by
  induction touches generalizing r with
  | nil => rfl
  | cons touch touches ih =>
    have hfirst : touch.onChildren (r.apply ts) = (r.andThen touch.refill).apply ts := by
      rw [Refill.apply_andThen, Touch.onChildren_eq]
    have hcons : childrenAfter (touch :: touches) (r.apply ts) =
        childrenAfter touches (touch.onChildren (r.apply ts)) := rfl
    rw [hcons, hfirst]
    exact ih _

/-- Touches refill an element. -/
lemma childrenAfter_eq (touches : List Touch) (ts : List (Stocked Unit)) :
    childrenAfter touches ts = (refillOf touches).apply ts :=
  childrenAfter_foldl .keep touches ts

/-- Touches put no elements. -/
lemma textual_refillOf (touches : List Touch) : (refillOf touches).Textual := by
  unfold refillOf
  have hstart : Refill.keep.Textual := trivial
  generalize Refill.keep = r at hstart ⊢
  induction touches generalizing r with
  | nil => exact hstart
  | cons touch touches ih => exact ih _ (hstart.andThen touch.textual_refill)

end TreeTemplate
