import TreeTemplate.Proofs.Attributes.Words

/-!
# Lists of attributes

Setting and removing attributes and classes, on the list of the attributes of an element.

Main statements:

* `filter_replaceAttr` — attributes of other names stay in place;
* `classesIn_addClassIn`, `classesIn_removeClassIn` — what becomes of the classes;
* `removeClassIn_eq_self` — removing a class that there is not.
-/

namespace TreeTemplate.Tree

variable {name other value old : String} {attrs : List (String × String)}

/-! ## Attributes -/

/-- An attribute is found among some if it is one of them. -/
lemma lookup_filter (p : String → Bool) (name : String) (attrs : List (String × String)) :
    (attrs.filter fun attr => p attr.1).lookup name =
      if p name then attrs.lookup name else none := by
  induction attrs with
  | nil => simp
  | cons attr attrs ih =>
    obtain ⟨found, value⟩ := attr
    by_cases hname : name = found
    · subst hname
      cases hp : p name <;> simp [hp, ih]
    · have hbeq : (name == found) = false := beq_false_of_ne hname
      cases hp : p found <;> simp [List.lookup_cons, hp, hbeq, ih]

/-- Setting an attribute to the value it has changes nothing. -/
lemma replaceAttr_of_lookup (h : attrs.lookup name = some value) :
    replaceAttr name value attrs = attrs := by
  induction attrs with
  | nil => cases h
  | cons attr attrs ih =>
    obtain ⟨found, old⟩ := attr
    simp only [replaceAttr]
    split
    · rename_i e
      subst e
      simp only [List.lookup_cons_self, Option.some.injEq] at h
      rw [h]
    · rename_i hne
      have hbeq : (name == found) = false := by simpa using fun e => hne (Eq.symm e)
      rw [List.lookup_cons, hbeq] at h
      rw [ih h]

/-- Of two values that an attribute gets the second one stays. -/
lemma replaceAttr_replaceAttr : replaceAttr name value (replaceAttr name old attrs) =
    replaceAttr name value attrs := by
  induction attrs with
  | nil => simp [replaceAttr]
  | cons attr attrs ih =>
    simp only [replaceAttr]
    split
    · simp [replaceAttr]
    · rename_i hne
      simp only [replaceAttr, if_neg hne, ih]

/-- Setting an attribute and keeping those of some names commute, or the attribute is not kept. -/
lemma filter_replaceAttr (p : String → Bool) (name value : String)
    (attrs : List (String × String)) :
    (replaceAttr name value attrs).filter (fun attr => p attr.1) =
      if p name then replaceAttr name value (attrs.filter fun attr => p attr.1)
      else attrs.filter fun attr => p attr.1 := by
  induction attrs with
  | nil => cases hp : p name <;> simp [replaceAttr, hp]
  | cons attr attrs ih =>
    obtain ⟨found, old⟩ := attr
    simp only [replaceAttr]
    split
    · rename_i e
      subst e
      cases hp : p found <;> simp [replaceAttr, hp]
    · rename_i hne
      cases hp : p found <;> cases hn : p name <;> simp [replaceAttr, hp, hn, hne, ih]

/-- Removing an attribute that there is not changes nothing. -/
lemma filter_of_lookup_none (h : attrs.lookup name = none) :
    attrs.filter (·.1 ≠ name) = attrs := by
  refine List.filter_eq_self.2 fun attr hattr => ?_
  have hne : attr.1 ≠ name := by
    rintro rfl
    exact absurd (List.lookup_eq_none_iff.1 h attr hattr) (by simp)
  simpa using hne

/-- An attribute is not found where it was removed. -/
lemma lookup_filter_ne_self (name : String) (attrs : List (String × String)) :
    (attrs.filter (·.1 ≠ name)).lookup name = none := by
  have := lookup_filter (· ≠ name) name attrs
  simpa using this

/-- Another attribute is found where one was removed. -/
lemma lookup_filter_ne_of_ne (h : other ≠ name) (attrs : List (String × String)) :
    (attrs.filter (·.1 ≠ name)).lookup other = attrs.lookup other := by
  have := lookup_filter (· ≠ name) other attrs
  simpa [h] using this

/-- Attributes can be taken away in any order. -/
lemma filter_filter_comm (p q : String → Bool) (attrs : List (String × String)) :
    (attrs.filter fun attr => p attr.1).filter (fun attr => q attr.1) =
      (attrs.filter fun attr => q attr.1).filter fun attr => p attr.1 := by
  simp only [List.filter_filter, Bool.and_comm]

/-! ## Classes -/

/-- The classes among the attributes of an element. -/
def classesIn (attrs : List (String × String)) : List String :=
  classesOf ((attrs.lookup "class").getD "")

/-- The attributes with a class more. -/
def addClassIn (name : String) (attrs : List (String × String)) : List (String × String) :=
  if name ∈ classesIn attrs then attrs
  else replaceAttr "class" (joinClasses (classesIn attrs ++ [name])) attrs

/-- The attributes without a class. -/
def removeClassIn (name : String) (attrs : List (String × String)) : List (String × String) :=
  match attrs.lookup "class" with
  | none => attrs
  | some value =>
    let rest := joinClasses ((classesOf value).filter (· ≠ name))
    if rest = "" then attrs.filter (·.1 ≠ "class") else replaceAttr "class" rest attrs

/-- The classes in attributes are classes. -/
lemma isClass_classesIn (attrs : List (String × String)) :
    ∀ name ∈ classesIn attrs, IsClass name :=
  fun _ h => isClass_of_mem h

/-- Classes are added and removed in the `class` attribute only. -/
lemma filter_addClassIn (p : String → Bool) (hp : p "class" = false) (name : String)
    (attrs : List (String × String)) : (addClassIn name attrs).filter (fun attr => p attr.1) =
      attrs.filter fun attr => p attr.1 := by
  unfold addClassIn
  split
  · rfl
  · rw [filter_replaceAttr, hp]
    rfl

/-- Removing a class leaves the other attributes as they are. -/
lemma filter_removeClassIn (p : String → Bool) (hp : p "class" = false) (name : String)
    (attrs : List (String × String)) : (removeClassIn name attrs).filter (fun attr => p attr.1) =
      attrs.filter fun attr => p attr.1 := by
  unfold removeClassIn
  split
  · rfl
  · dsimp only
    split
    · rw [List.filter_filter]
      refine List.filter_congr fun attr _ => ?_
      by_cases hattr : attr.1 = "class"
      · simp [hattr, hp]
      · simp [hattr]
    · rw [filter_replaceAttr, hp]
      rfl

/-- A class is added behind the others unless it is there. -/
lemma classesIn_addClassIn (hname : IsClass name) (attrs : List (String × String)) :
    classesIn (addClassIn name attrs) =
      if name ∈ classesIn attrs then classesIn attrs else classesIn attrs ++ [name] := by
  unfold addClassIn
  split
  · rfl
  · rw [classesIn, lookup_replaceAttr_self, Option.getD_some, classesOf_join]
    simpa [or_imp, forall_and] using And.intro (isClass_classesIn attrs) hname

/-- The classes that are left are the other ones. -/
lemma classesIn_removeClassIn (name : String) (attrs : List (String × String)) :
    classesIn (removeClassIn name attrs) = (classesIn attrs).filter (· ≠ name) := by
  have hclass (value : String) : ∀ other ∈ (classesOf value).filter (· ≠ name), IsClass other :=
    fun other h => isClass_of_mem (List.mem_filter.1 h).1
  unfold removeClassIn
  cases hlookup : attrs.lookup "class" with
  | none => simp [classesIn, hlookup, classesOf, Text.words, Text.wordRuns]
  | some value =>
    have hin : classesIn attrs = classesOf value := by
      simp [classesIn, hlookup]
    dsimp only
    rw [hin]
    split
    · rename_i hrest
      rw [(joinClasses_eq_empty (hclass value)).1 hrest, classesIn, lookup_filter_ne_self]
      rfl
    · rw [classesIn, lookup_replaceAttr_self, Option.getD_some, classesOf_join (hclass value)]

/-- The `class` attribute holds nothing but its classes with a blank between them, and at least
one. -/
def NormalClass (attrs : List (String × String)) : Prop :=
  ∀ value, attrs.lookup "class" = some value →
    classesOf value ≠ [] ∧ joinClasses (classesOf value) = value

/-- Classes that are written with a blank between them are normal. -/
lemma normalClass_join {names : List String} (h : ∀ name ∈ names, IsClass name)
    (hne : names ≠ []) (attrs : List (String × String)) :
    NormalClass (replaceAttr "class" (joinClasses names) attrs) := by
  intro value hvalue
  rw [lookup_replaceAttr_self, Option.some.injEq] at hvalue
  rw [← hvalue, classesOf_join h]
  exact ⟨hne, rfl⟩

/-- Removing a class leaves the attribute normal. -/
lemma normalClass_removeClassIn (name : String) (attrs : List (String × String)) :
    NormalClass (removeClassIn name attrs) := by
  unfold removeClassIn
  cases hlookup : attrs.lookup "class" with
  | none =>
    intro value hvalue
    rw [hlookup] at hvalue
    cases hvalue
  | some value =>
    dsimp only
    split
    · intro other hother
      rw [lookup_filter_ne_self] at hother
      cases hother
    · rename_i hrest
      refine normalClass_join (fun other h => isClass_of_mem (List.mem_filter.1 h).1) ?_ attrs
      intro e
      rw [e] at hrest
      exact hrest rfl

/-- Adding a class leaves normal classes normal. -/
lemma NormalClass.addClassIn (hname : IsClass name) (h : NormalClass attrs) :
    NormalClass (addClassIn name attrs) := by
  unfold Tree.addClassIn
  split
  · exact h
  · refine normalClass_join ?_ (by simp) attrs
    simpa [or_imp, forall_and] using And.intro (isClass_classesIn attrs) hname

/-- Removing a class that there is not changes nothing. -/
lemma removeClassIn_eq_self (h : NormalClass attrs) (hname : name ∉ classesIn attrs) :
    removeClassIn name attrs = attrs := by
  unfold removeClassIn
  cases hlookup : attrs.lookup "class" with
  | none => rfl
  | some value =>
    obtain ⟨hne, hjoin⟩ := h value hlookup
    have hfilter : (classesOf value).filter (· ≠ name) = classesOf value := by
      refine List.filter_eq_self.2 fun other hother => ?_
      have : other ≠ name := by
        rintro rfl
        exact hname (by simpa [classesIn, hlookup] using hother)
      simpa using this
    have hvalue : value ≠ "" := by
      rintro rfl
      exact hne (by rfl)
    dsimp only
    rw [hfilter, hjoin, if_neg hvalue]
    exact replaceAttr_of_lookup hlookup

end TreeTemplate.Tree
