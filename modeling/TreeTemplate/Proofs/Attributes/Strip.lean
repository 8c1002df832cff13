import TreeTemplate.Proofs.Attributes.Sequence

/-!
# Attributes without what operators write

What is left of the attributes of an element without the attributes and the classes that its
operators write. No run of the operators changes it, and undoing them all leaves nothing else.

Main statements:

* `strip_attrsAfter` — touches of the operators change nothing that is left;
* `attrsAfter_of_undoes` — undoing the operators leaves just that.
-/

namespace TreeTemplate

namespace Tree

variable {name : String} {names rest : List String} {attrs : List (String × String)}

/-- Sets the classes of an element; without any the attribute is removed. -/
def setClasses (names : List String) (attrs : List (String × String)) : List (String × String) :=
  if names = [] then attrs.filter (·.1 ≠ "class")
  else replaceAttr "class" (joinClasses names) attrs

/-- Where there are classes, one is removed by setting the others. -/
lemma removeClassIn_eq (name : String) (attrs : List (String × String)) :
    removeClassIn name attrs =
      match attrs.lookup "class" with
      | none => attrs
      | some value => setClasses ((classesOf value).filter (· ≠ name)) attrs := by
  unfold removeClassIn
  cases attrs.lookup "class" with
  | none => rfl
  | some value =>
    have hclass : ∀ other ∈ (classesOf value).filter (· ≠ name), IsClass other :=
      fun other h => isClass_of_mem (List.mem_filter.1 h).1
    simp only [joinClasses_eq_empty hclass, setClasses]

/-- A class that is not there is added behind the others. -/
lemma addClassIn_eq (h : name ∉ classesIn attrs) :
    addClassIn name attrs = setClasses (classesIn attrs ++ [name]) attrs := by
  unfold addClassIn setClasses
  rw [if_neg h, if_neg (by simp)]

/-- The attribute for classes holds those that are set, and is missing where there are none. -/
lemma lookup_setClasses (names : List String) (attrs : List (String × String)) :
    (setClasses names attrs).lookup "class" =
      if names = [] then none else some (joinClasses names) := by
  unfold setClasses
  split
  · exact lookup_filter_ne_self "class" attrs
  · exact lookup_replaceAttr_self "class" _ attrs

/-- Of classes that are set one after another the last count. -/
lemma setClasses_setClasses (h : names = [] → rest = []) :
    setClasses rest (setClasses names attrs) = setClasses rest attrs := by
  unfold setClasses
  by_cases hnames : names = []
  · rw [if_pos hnames, if_pos (h hnames), if_pos (h hnames), List.filter_filter]
    simp
  · rw [if_neg hnames]
    split
    · have hfilter := filter_replaceAttr (· ≠ "class") "class" (joinClasses names) attrs
      simpa using hfilter
    · exact replaceAttr_replaceAttr

/-- Setting the classes leaves the other attributes to what is done with these. -/
lemma filter_setClasses (p : String → Bool) (hp : p "class" = true) (names : List String)
    (attrs : List (String × String)) : (setClasses names attrs).filter (fun attr => p attr.1) =
      setClasses names (attrs.filter fun attr => p attr.1) := by
  unfold setClasses
  split
  · exact filter_filter_comm (· ≠ "class") p attrs
  · rw [filter_replaceAttr, hp, if_pos rfl]

/-- The attributes without some classes. -/
def stripClasses (names : List String) (attrs : List (String × String)) :
    List (String × String) :=
  if names = [] then attrs
  else
    match attrs.lookup "class" with
    | none => attrs
    | some value => setClasses ((classesOf value).filter (· ∉ names)) attrs

/-- Where there are no classes none are taken away. -/
lemma stripClasses_of_none (h : attrs.lookup "class" = none) (names : List String) :
    stripClasses names attrs = attrs := by
  unfold stripClasses
  rw [h]
  split <;> rfl

/-- Where there are classes the others are set. -/
lemma stripClasses_of_some {value : String} (h : attrs.lookup "class" = some value)
    (hne : names ≠ []) : stripClasses names attrs =
      setClasses ((classesOf value).filter (· ∉ names)) attrs := by
  unfold stripClasses
  rw [if_neg hne, h]

/-- What is left of classes that were set. -/
lemma stripClasses_setClasses (hclass : ∀ name ∈ rest, IsClass name) (hne : names ≠ []) :
    stripClasses names (setClasses rest attrs) =
      setClasses (rest.filter (· ∉ names)) attrs := by
  by_cases hrest : rest = []
  · subst hrest
    rw [stripClasses_of_none (by rw [lookup_setClasses, if_pos rfl])]
    rfl
  · have hlookup : (setClasses rest attrs).lookup "class" = some (joinClasses rest) := by
      rw [lookup_setClasses, if_neg hrest]
    rw [stripClasses_of_some hlookup hne, classesOf_join hclass]
    exact setClasses_setClasses fun h => absurd h hrest

/-- Adding a class that does not count changes nothing that is left. -/
lemma stripClasses_addClassIn (hname : IsClass name) (hmem : name ∈ names) :
    stripClasses names (addClassIn name attrs) = stripClasses names attrs := by
  have hne : names ≠ [] := List.ne_nil_of_mem hmem
  by_cases hin : name ∈ classesIn attrs
  · unfold addClassIn
    rw [if_pos hin]
  · have hclass : ∀ other ∈ classesIn attrs ++ [name], IsClass other := by
      simpa [or_imp, forall_and] using And.intro (isClass_classesIn attrs) hname
    rw [addClassIn_eq hin, stripClasses_setClasses hclass hne]
    have hgone : [name].filter (· ∉ names) = [] := by simp [hmem]
    rw [List.filter_append, hgone, List.append_nil]
    cases hlookup : attrs.lookup "class" with
    | none =>
      have hnone : classesIn attrs = [] := by
        simp [classesIn, hlookup, classesOf, Text.words, Text.wordRuns]
      rw [stripClasses_of_none hlookup, hnone]
      exact filter_of_lookup_none hlookup
    | some value =>
      rw [stripClasses_of_some hlookup hne, classesIn, hlookup]
      rfl

/-- Removing a class, and then others, is removing them all. -/
lemma stripClasses_removeClassIn (name : String) (names : List String)
    (attrs : List (String × String)) :
    stripClasses names (removeClassIn name attrs) = stripClasses (name :: names) attrs := by
  rw [removeClassIn_eq]
  cases hlookup : attrs.lookup "class" with
  | none =>
    dsimp only
    rw [stripClasses_of_none hlookup, stripClasses_of_none hlookup]
  | some value =>
    have hclass : ∀ other ∈ (classesOf value).filter (· ≠ name), IsClass other :=
      fun other h => isClass_of_mem (List.mem_filter.1 h).1
    dsimp only
    rw [stripClasses_of_some hlookup (by simp)]
    by_cases hnames : names = []
    · subst hnames
      unfold stripClasses
      rw [if_pos rfl]
      simp
    · rw [stripClasses_setClasses hclass hnames, List.filter_filter]
      congr 1
      refine List.filter_congr fun other _ => ?_
      simp [Bool.and_comm]

/-- It is enough to take a class away once. -/
lemma stripClasses_cons_of_mem (hmem : name ∈ names) :
    stripClasses (name :: names) attrs = stripClasses names attrs := by
  have hne : names ≠ [] := List.ne_nil_of_mem hmem
  have hsame (other : String) : other ∉ name :: names ↔ other ∉ names := by
    simp only [List.mem_cons, not_or, and_iff_right_iff_imp]
    rintro h rfl
    exact h hmem
  cases hlookup : attrs.lookup "class" with
  | none => rw [stripClasses_of_none hlookup, stripClasses_of_none hlookup]
  | some value =>
    rw [stripClasses_of_some hlookup (by simp), stripClasses_of_some hlookup hne]
    simp only [hsame]

/-- Taking other attributes away leaves the classes as they are. -/
lemma classesIn_filter (p : String → Bool) (hp : p "class" = true)
    (attrs : List (String × String)) :
    classesIn (attrs.filter fun attr => p attr.1) = classesIn attrs := by
  unfold classesIn
  rw [lookup_filter, if_pos hp]

/-- A class is added whether other attributes are taken away before or afterwards. -/
lemma filter_addClassIn_of_kept (p : String → Bool) (hp : p "class" = true) (name : String)
    (attrs : List (String × String)) : (addClassIn name attrs).filter (fun attr => p attr.1) =
      addClassIn name (attrs.filter fun attr => p attr.1) := by
  unfold addClassIn
  rw [classesIn_filter p hp]
  split
  · rfl
  · rw [filter_replaceAttr, if_pos hp]

/-- A class is removed whether other attributes are taken away before or afterwards. -/
lemma filter_removeClassIn_of_kept (p : String → Bool) (hp : p "class" = true) (name : String)
    (attrs : List (String × String)) : (removeClassIn name attrs).filter (fun attr => p attr.1) =
      removeClassIn name (attrs.filter fun attr => p attr.1) := by
  rw [removeClassIn_eq, removeClassIn_eq, lookup_filter, if_pos hp]
  cases attrs.lookup "class" with
  | none => rfl
  | some value => exact filter_setClasses p hp _ attrs

end Tree

open TreeTemplate.Tree

/-- The attributes without those of some names and without some classes. -/
def strip (names classes : List String) (attrs : List (String × String)) :
    List (String × String) :=
  stripClasses classes (attrs.filter fun attr => attr.1 ∉ names)

section Strip

variable {name : String} {names classes : List String} {attrs : List (String × String)}

/-- Without the attribute for classes there are no classes to be left out. -/
lemma strip_of_class_mem (h : "class" ∈ names) (classes : List String)
    (attrs : List (String × String)) :
    strip names classes attrs = attrs.filter fun attr => attr.1 ∉ names := by
  refine stripClasses_of_none ?_ classes
  rw [lookup_filter (fun name => name ∉ names)]
  simp [h]

/-- A class that is removed first is one more that is taken away. -/
lemma strip_removeClassIn (name : String) (names classes : List String)
    (attrs : List (String × String)) : strip names classes (removeClassIn name attrs) =
      strip names (name :: classes) attrs := by
  by_cases hclass : "class" ∈ names
  · rw [strip_of_class_mem hclass, strip_of_class_mem hclass]
    exact filter_removeClassIn (fun name => name ∉ names) (by simp [hclass]) name attrs
  · unfold strip
    rw [filter_removeClassIn_of_kept (fun name => name ∉ names) (by simp [hclass]),
      stripClasses_removeClassIn]

/-- An attribute that is removed first is one more that is taken away. -/
lemma strip_filter (name : String) (names classes : List String)
    (attrs : List (String × String)) : strip names classes (attrs.filter (·.1 ≠ name)) =
      strip (name :: names) classes attrs := by
  unfold strip
  rw [List.filter_filter]
  congr 1
  refine List.filter_congr fun attr _ => ?_
  simp [Bool.and_comm]

end Strip

/-! ## Touches and what is left -/

namespace Touch

/-- A touch writes nothing but some attributes and some classes. -/
def Within (names classes : List String) : Touch → Prop
  | put name _ => name ∈ names
  | toggle name _ => name ∈ classes ∧ IsClass name
  | _ => True

/-- A touch that writes one of some classes writes a class. -/
lemma Within.proper {touch : Touch} {names classes : List String}
    (h : touch.Within names classes) : touch.Proper := by
  cases touch with
  | toggle name on => exact h.2
  | _ => trivial

/-- A touch removes an attribute, a class or texts, or stops. -/
def Undoes : Touch → Prop
  | put _ value? => value? = none
  | toggle _ on => on = false
  | removeText | refuse _ => True
  | fillText _ | recover _ => False

/-- The attribute that a touch sets or removes as a whole. -/
def putName? : Touch → Option String
  | put name _ => some name
  | _ => none

/-- The class that a touch adds or removes. -/
def toggleName? : Touch → Option String
  | toggle name _ => some name
  | _ => none

variable {touch : Touch} {names classes : List String}

/-- A touch changes nothing of what is left without what it writes. -/
lemma strip_onAttrs (h : touch.Within names classes) (attrs : List (String × String)) :
    strip names classes (touch.onAttrs attrs) = strip names classes attrs := by
  have houtside (hname : ∀ name, touch.name? = some name → name ∈ names) :
      strip names classes (touch.onAttrs attrs) = strip names classes attrs := by
    unfold strip
    rw [filter_onAttrs (fun name => name ∉ names) (fun name hn => by simp [hname name hn])]
  cases touch with
  | put name value? => exact houtside fun found e => by cases e; exact h
  | toggle name on =>
    by_cases hclass : "class" ∈ names
    · exact houtside fun found e => by cases e; exact hclass
    · cases on with
      | true =>
        unfold strip
        rw [onAttrs, filter_addClassIn_of_kept (fun name => name ∉ names) (by simp [hclass]),
          stripClasses_addClassIn h.2 h.1]
      | false =>
        rw [onAttrs, strip_removeClassIn]
        exact stripClasses_cons_of_mem h.1
  | _ => exact houtside fun found e => by cases e

end Touch

variable {touches : List Touch} {names classes : List String}

/-- Touches change nothing of what is left without what they write. -/
lemma strip_attrsAfter (h : ∀ touch ∈ touches, touch.Within names classes)
    (attrs : List (String × String)) :
    strip names classes (attrsAfter touches attrs) = strip names classes attrs := by
  induction touches generalizing attrs with
  | nil => rfl
  | cons touch touches ih =>
    have hlater := ih (fun _ hm => h _ (List.mem_cons_of_mem _ hm)) (touch.onAttrs attrs)
    exact hlater.trans (Touch.strip_onAttrs (h touch List.mem_cons_self) attrs)

/-- Touches that only remove leave what is left without what they write. -/
lemma attrsAfter_of_undoes (h : ∀ touch ∈ touches, touch.Undoes)
    (attrs : List (String × String)) :
    attrsAfter touches attrs = strip (touches.filterMap Touch.putName?)
      (touches.filterMap Touch.toggleName?) attrs := by
  induction touches generalizing attrs with
  | nil => simp [attrsAfter, strip, stripClasses]
  | cons touch touches ih =>
    have hlater := ih (fun _ hm => h _ (List.mem_cons_of_mem _ hm)) (touch.onAttrs attrs)
    refine Eq.trans hlater ?_
    have hfirst := h touch List.mem_cons_self
    cases touch with
    | put name value? =>
      obtain rfl : value? = none := hfirst
      exact strip_filter name _ _ attrs
    | toggle name on =>
      obtain rfl : on = false := hfirst
      exact strip_removeClassIn name _ _ attrs
    | _ => rfl

/-- Touches that write nothing but what others remove change nothing of what these leave. -/
lemma attrsAfter_undoing {undoing : List Touch} (hundoes : ∀ touch ∈ undoing, touch.Undoes)
    (h : ∀ touch ∈ touches, touch.Within (undoing.filterMap Touch.putName?)
      (undoing.filterMap Touch.toggleName?)) (attrs : List (String × String)) :
    attrsAfter undoing (attrsAfter touches attrs) = attrsAfter undoing attrs := by
  rw [attrsAfter_of_undoes hundoes, attrsAfter_of_undoes hundoes, strip_attrsAfter h]

end TreeTemplate
