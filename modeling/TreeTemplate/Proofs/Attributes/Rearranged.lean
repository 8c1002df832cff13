import TreeTemplate.Proofs.Attributes.Undoing

/-!
# Attributes in another order

Two elements whose operators write the same attributes and the same classes, and which differ in
nothing else, are alike after the operators ran. Attributes may stand in another order then, and so
may classes.

Main statements:

* `LikeBut.attrsAfter` — what touches write is no longer different;
* `rearranged_attrsAfter` — the attributes after operators that write all there is to write.
-/

namespace TreeTemplate

open TreeTemplate.Tree

variable {A B : List (String × String)} {touches : List Touch}

/-- Two values of an attribute count for the same: they are the same, or they hold the same
classes. -/
def SameValue (name value value' : String) : Prop :=
  value = value' ∨ name = "class" ∧ ∀ found, found ∈ classesOf value ↔ found ∈ classesOf value'

/-- Attributes in another order, and classes in another order. -/
def Rearranged (A B : List (String × String)) : Prop :=
  ∃ A', A.Perm A' ∧
    List.Forall₂ (fun attr attr' => attr.1 = attr'.1 ∧ SameValue attr.1 attr.2 attr'.2) A' B

/-- Attributes are a rearrangement of themselves. -/
lemma Rearranged.refl (A : List (String × String)) : Rearranged A A :=
  ⟨A, .refl A, List.forall₂_same.2 fun _ _ => ⟨rfl, .inl rfl⟩⟩

/-! ## Attributes by their names -/

/-- An attribute that is not there has no value. -/
lemma lookup_of_not_mem {name : String} (h : name ∉ A.map Prod.fst) : A.lookup name = none :=
  List.lookup_eq_none_iff.2 fun attr hattr => by
    simpa using fun e => h (List.mem_map.2 ⟨attr, hattr, e.symm⟩)

/-- The first attribute does not matter for the value of another one. -/
lemma lookup_cons_of_ne {name other value : String} (h : other ≠ name) :
    ((name, value) :: A).lookup other = A.lookup other := by
  rw [List.lookup_cons, beq_false_of_ne h]

/-- What is found under the names of two lists of attributes is related. -/
lemma exists_perm_of_lookup {r : String → String → String → Prop}
    (hA : (A.map Prod.fst).Nodup) (hB : (B.map Prod.fst).Nodup)
    (h : ∀ name, Option.Rel (r name) (A.lookup name) (B.lookup name)) :
    ∃ A', A.Perm A' ∧
      List.Forall₂ (fun attr attr' => attr.1 = attr'.1 ∧ r attr.1 attr.2 attr'.2) A' B := by
  induction B generalizing A with
  | nil =>
    have hnil : A = [] := by
      refine List.eq_nil_iff_forall_not_mem.2 fun attr hattr => ?_
      have hnone := h attr.1
      rw [List.lookup_nil] at hnone
      cases hlookup : A.lookup attr.1 with
      | none => exact absurd (List.lookup_eq_none_iff.1 hlookup attr hattr) (by simp)
      | some value =>
        rw [hlookup] at hnone
        cases hnone
    exact ⟨[], hnil ▸ .nil, .nil⟩
  | cons attr B ih =>
    obtain ⟨name, value⟩ := attr
    obtain ⟨hnew, hB⟩ := List.nodup_cons.1 hB
    have hfirst := h name
    rw [List.lookup_cons, beq_self_eq_true] at hfirst
    cases hlookup : A.lookup name with
    | none =>
      rw [hlookup] at hfirst
      cases hfirst
    | some found =>
      rw [hlookup] at hfirst
      -- the attribute that stands for the first one is brought to the front
      obtain ⟨before, after, rfl, -⟩ := List.lookup_eq_some_iff.1 hlookup
      have hmiddle : (before ++ (name, found) :: after).Perm
          ((name, found) :: (before ++ after)) := List.perm_middle
      obtain ⟨hgone, hothers⟩ := List.nodup_cons.1 ((hmiddle.map Prod.fst).nodup_iff.1 hA)
      have hlater (other : String) :
          Option.Rel (r other) ((before ++ after).lookup other) (B.lookup other) := by
        by_cases hname : other = name
        · subst hname
          rw [lookup_of_not_mem hgone, lookup_of_not_mem hnew]
          exact .none
        · have hother := h other
          rw [lookup_cons_of_ne hname, List.lookup_append, lookup_cons_of_ne hname,
            ← List.lookup_append] at hother
          exact hother
      obtain ⟨A', hperm, hall⟩ := ih hothers hB hlater
      cases hfirst with
      | some hr => exact ⟨_, hmiddle.trans (hperm.cons _), .cons ⟨rfl, hr⟩ hall⟩

/-! ## Attributes that differ in what operators write -/

/-- The attribute for classes is missing, or there are classes in it. -/
def ClassNotEmpty (A : List (String × String)) : Prop :=
  ∀ value, A.lookup "class" = some value → classesOf value ≠ []

/-- Apart from some classes, which are still to be written, two elements have the same classes. -/
def SameClassesBut (q : String → Prop) (A B : List (String × String)) : Prop :=
  A.lookup "class" = B.lookup "class" ∨
    (∀ name, ¬ q name → (name ∈ classesIn A ↔ name ∈ classesIn B)) ∧
      ((∃ name, q name) ∨ ClassNotEmpty A ∧ ClassNotEmpty B)

/-- Whether two elements have the same classes depends on their attributes for classes alone. -/
lemma SameClassesBut.congr {q : String → Prop} {A' B' : List (String × String)}
    (h : SameClassesBut q A B) (hA : A'.lookup "class" = A.lookup "class")
    (hB : B'.lookup "class" = B.lookup "class") : SameClassesBut q A' B' := by
  unfold SameClassesBut ClassNotEmpty classesIn
  rw [hA, hB]
  exact h

/-- A class that was added or removed is there or not, and the others are as before. -/
lemma mem_classesIn_toggle {name found : String} (hname : IsClass name) (on : Bool)
    (A : List (String × String)) : found ∈ classesIn ((Touch.toggle name on).onAttrs A) ↔
      if found = name then on = true else found ∈ classesIn A := by
  cases on with
  | true =>
    simp only [Touch.onAttrs, classesIn_addClassIn hname]
    split <;> split <;> simp_all
  | false =>
    simp only [Touch.onAttrs, classesIn_removeClassIn, List.mem_filter]
    split <;> simp_all

/-- Where a class was added or removed, the attribute for classes is not left empty. -/
lemma classNotEmpty_toggle {name : String} (hname : IsClass name) (on : Bool)
    (A : List (String × String)) : ClassNotEmpty ((Touch.toggle name on).onAttrs A) := by
  intro value hvalue
  cases on with
  | true =>
    have hmem : name ∈ classesIn ((Touch.toggle name true).onAttrs A) :=
      (mem_classesIn_toggle hname true A).2 (by simp)
    rw [classesIn, hvalue] at hmem
    exact List.ne_nil_of_mem hmem
  | false => exact (normalClass_removeClassIn name A value hvalue).1

/-- What becomes of the attribute for classes depends on nothing but that attribute. -/
lemma lookup_toggle_congr (name : String) (on : Bool)
    (h : A.lookup "class" = B.lookup "class") :
    ((Touch.toggle name on).onAttrs A).lookup "class" =
      ((Touch.toggle name on).onAttrs B).lookup "class" := by
  have hclasses : classesIn A = classesIn B := by rw [classesIn, h, classesIn]
  cases on with
  | true =>
    simp only [Touch.onAttrs, addClassIn, hclasses]
    split
    · exact h
    · rw [lookup_replaceAttr_self, lookup_replaceAttr_self]
  | false =>
    simp only [Touch.onAttrs, removeClassIn_eq, h]
    cases hlookup : B.lookup "class" with
    | none =>
      dsimp only
      rw [h]
    | some value =>
      dsimp only
      rw [lookup_setClasses, lookup_setClasses]

/-- Apart from some attributes and some classes, which are still to be written, two elements have
the same attributes. -/
structure LikeBut (p q : String → Prop) (A B : List (String × String)) : Prop where
  others : ∀ name, ¬ p name → name ≠ "class" → A.lookup name = B.lookup name
  classes : ¬ p "class" → SameClassesBut q A B

namespace LikeBut

variable {p q : String → Prop}

/-- More attributes and classes may be left open. -/
lemma mono {p' q' : String → Prop} (h : LikeBut p q A B) (hp : ∀ name, p name → p' name)
    (hq : ∀ name, q name → q' name) : LikeBut p' q' A B where
  others name hn := h.others name fun hpn => hn (hp name hpn)
  classes hn := (h.classes fun hpn => hn (hp _ hpn)).imp_right fun hsame =>
    ⟨fun name hnot => hsame.1 name fun hqn => hnot (hq name hqn),
      hsame.2.imp_left fun ⟨name, hqn⟩ => ⟨name, hq name hqn⟩⟩

/-- Setting the same attribute of two elements. -/
lemma put (h : LikeBut p q A B) (name : String) (value? : Option String) :
    LikeBut (fun other => p other ∧ other ≠ name) q ((Touch.put name value?).onAttrs A)
      ((Touch.put name value?).onAttrs B) := by
  have hself (A : List (String × String)) :
      ((Touch.put name value?).onAttrs A).lookup name = value? :=
    (Touch.put name value?).settled_onAttrs trivial A
  have hother {other : String} (hne : other ≠ name) (A : List (String × String)) :
      ((Touch.put name value?).onAttrs A).lookup other = A.lookup other :=
    Touch.lookup_onAttrs (fun e => hne (by cases e; rfl)) A
  refine ⟨fun other hp hclass => ?_, fun hp => ?_⟩
  · by_cases hne : other = name
    · rw [hne, hself, hself]
    · rw [hother hne, hother hne]
      exact h.others other (fun hpo => hp ⟨hpo, hne⟩) hclass
  · by_cases hne : "class" = name
    · subst hne
      exact .inl ((hself A).trans (hself B).symm)
    · exact (h.classes fun hpo => hp ⟨hpo, hne⟩).congr (hother hne A) (hother hne B)

/-- Adding or removing the same class of two elements. -/
lemma toggle (h : LikeBut p q A B) {name : String} (hname : IsClass name) (on : Bool) :
    LikeBut p (fun other => q other ∧ other ≠ name) ((Touch.toggle name on).onAttrs A)
      ((Touch.toggle name on).onAttrs B) := by
  have hother {other : String} (hne : other ≠ "class") (A : List (String × String)) :
      ((Touch.toggle name on).onAttrs A).lookup other = A.lookup other :=
    Touch.lookup_onAttrs (fun e => hne (by cases e; rfl)) A
  refine ⟨fun other hp hclass => ?_, fun hp => ?_⟩
  · rw [hother hclass, hother hclass]
    exact h.others other hp hclass
  · rcases h.classes hp with he | ⟨hsame, -⟩
    · exact .inl (lookup_toggle_congr name on he)
    · refine .inr ⟨fun found hq => ?_,
        .inr ⟨classNotEmpty_toggle hname on A, classNotEmpty_toggle hname on B⟩⟩
      rw [mem_classesIn_toggle hname, mem_classesIn_toggle hname]
      split
      · rfl
      · rename_i hne
        exact hsame found fun hqf => hq ⟨hqf, hne⟩

/-- What touches write is no longer different. -/
lemma attrsAfter (h : LikeBut p q A B) (hproper : ∀ touch ∈ touches, touch.Proper) :
    LikeBut (fun name => p name ∧ name ∉ touches.filterMap Touch.putName?)
      (fun name => q name ∧ name ∉ touches.filterMap Touch.toggleName?)
      (attrsAfter touches A) (attrsAfter touches B) := by
  induction touches generalizing p q A B with
  | nil => exact h.mono (fun name hp => ⟨hp, by simp⟩) fun name hq => ⟨hq, by simp⟩
  | cons touch touches ih =>
    obtain ⟨hfirst, hlater⟩ := List.forall_mem_cons.1 hproper
    cases touch with
    | put name value? =>
      refine (ih (h.put name value?) hlater).mono (fun other hp => ⟨hp.1.1, ?_⟩) fun _ hq => hq
      have hput : (Touch.put name value?).putName? = some name := rfl
      rw [List.filterMap_cons_some hput, List.mem_cons, not_or]
      exact ⟨hp.1.2, hp.2⟩
    | toggle name on =>
      refine (ih (h.toggle hfirst on) hlater).mono (fun _ hp => hp) fun other hq => ⟨hq.1.1, ?_⟩
      have htoggle : (Touch.toggle name on).toggleName? = some name := rfl
      rw [List.filterMap_cons_some htoggle, List.mem_cons, not_or]
      exact ⟨hq.1.2, hq.2⟩
    | _ => exact ih h hlater

/-- Where nothing is different any more, the attributes are the same, but for their order. -/
lemma rearranged (h : LikeBut p q A B) (hp : ∀ name, ¬ p name) (hq : ∀ name, ¬ q name)
    (hA : (A.map Prod.fst).Nodup) (hB : (B.map Prod.fst).Nodup) : Rearranged A B := by
  refine exists_perm_of_lookup hA hB fun name => ?_
  have hsame (e : A.lookup name = B.lookup name) :
      Option.Rel (SameValue name) (A.lookup name) (B.lookup name) := by
    rw [e]
    cases B.lookup name with
    | none => exact .none
    | some value => exact .some (.inl rfl)
  by_cases hclass : name = "class"
  · subst hclass
    rcases h.classes (hp _) with he | ⟨hclasses, hkept⟩
    · exact hsame he
    · obtain ⟨hA', hB'⟩ := hkept.resolve_left fun ⟨name, hqn⟩ => hq name hqn
      have hnone : classesOf "" = [] := by simp [classesOf, Text.words, Text.wordRuns]
      simp only [classesIn] at hclasses
      cases hfirst : A.lookup "class" with
      | none =>
        cases hsecond : B.lookup "class" with
        | none => exact .none
        | some value =>
          rw [hfirst, hsecond] at hclasses
          refine absurd (List.eq_nil_iff_forall_not_mem.2 fun found hfound => ?_)
            (hB' value hsecond)
          have hmem := (hclasses found (hq found)).2 hfound
          simp [hnone] at hmem
      | some value =>
        cases hsecond : B.lookup "class" with
        | none =>
          rw [hfirst, hsecond] at hclasses
          refine absurd (List.eq_nil_iff_forall_not_mem.2 fun found hfound => ?_) (hA' value hfirst)
          have hmem := (hclasses found (hq found)).1 hfound
          simp [hnone] at hmem
        | some value' =>
          rw [hfirst, hsecond] at hclasses
          exact .some (.inr ⟨rfl, fun found => hclasses found (hq found)⟩)
  · exact hsame (h.others name (hp name) hclass)

end LikeBut

/-! ## Attributes that are undone in the same way -/

/-- Taking classes away leaves the other attributes as they are. -/
lemma lookup_stripClasses_of_ne {name : String} (h : name ≠ "class") (classes : List String)
    (A : List (String × String)) : (stripClasses classes A).lookup name = A.lookup name := by
  unfold stripClasses
  split
  · rfl
  · split
    · rfl
    · unfold setClasses
      split
      · exact lookup_filter_ne_of_ne h A
      · exact lookup_replaceAttr_of_ne h _ A

/-- The classes that are left are those that are not taken away. -/
lemma classesIn_stripClasses (classes : List String) (A : List (String × String)) :
    classesIn (stripClasses classes A) = (classesIn A).filter (· ∉ classes) := by
  by_cases hne : classes = []
  · subst hne
    simp [stripClasses]
  · have hnone : classesOf "" = [] := by simp [classesOf, Text.words, Text.wordRuns]
    cases hlookup : A.lookup "class" with
    | none => simp [stripClasses_of_none hlookup, classesIn, hlookup, hnone]
    | some value =>
      rw [stripClasses_of_some hlookup hne, classesIn, lookup_setClasses, classesIn, hlookup,
        Option.getD_some]
      split
      · rename_i hrest
        rw [hrest, Option.getD_none, hnone]
      · exact classesOf_join fun name hname => isClass_of_mem (List.mem_filter.1 hname).1

/-- Two elements that are undone in the same way differ in what undoing them removes. -/
lemma likeBut_of_undone {undoing : List Touch} (hundoes : ∀ touch ∈ undoing, touch.Undoes)
    (h : attrsAfter undoing A = attrsAfter undoing B) :
    LikeBut (· ∈ undoing.filterMap Touch.putName?) (· ∈ undoing.filterMap Touch.toggleName?)
      A B := by
  rw [attrsAfter_of_undoes hundoes, attrsAfter_of_undoes hundoes] at h
  generalize undoing.filterMap Touch.putName? = names at h ⊢
  generalize undoing.filterMap Touch.toggleName? = classes at h ⊢
  unfold strip at h
  have hlookup {name : String} (hname : name ∉ names) (A : List (String × String)) :
      (A.filter fun attr => attr.1 ∉ names).lookup name = A.lookup name := by
    rw [lookup_filter (fun name => name ∉ names)]
    simp [hname]
  refine ⟨fun name hname hclass => ?_, fun hname => ?_⟩
  · have hsame := congrArg (List.lookup name) h
    rwa [lookup_stripClasses_of_ne hclass, lookup_stripClasses_of_ne hclass, hlookup hname,
      hlookup hname] at hsame
  · cases classes with
    | nil =>
      have hsame := congrArg (List.lookup "class") h
      simp only [stripClasses, if_true, hlookup hname] at hsame
      exact .inl hsame
    | cons first rest =>
      refine .inr ⟨fun name hname' => ?_, .inl ⟨first, List.mem_cons_self⟩⟩
      have hsame := congrArg classesIn h
      rw [classesIn_stripClasses, classesIn_stripClasses, classesIn, hlookup hname, classesIn,
        hlookup hname] at hsame
      have hmem : name ∈ _ ↔ name ∈ _ := iff_of_eq (congrArg (name ∈ ·) hsame)
      rw [List.mem_filter, List.mem_filter] at hmem
      simp only [hname', not_false_eq_true, decide_true, and_true] at hmem
      exact hmem

/-- Touches leave different names on attributes that had different names. -/
lemma nodup_attrsAfter (touches : List Touch) (h : (A.map Prod.fst).Nodup) :
    ((attrsAfter touches A).map Prod.fst).Nodup := by
  induction touches generalizing A with
  | nil => exact h
  | cons touch touches ih => exact ih (touch.nodup_onAttrs h)

/-! ## Operators that write all there is to write -/

/-- Touches write every attribute and every class that others write. -/
structure Overwrites (touches others : List Touch) : Prop where
  puts : others.filterMap Touch.putName? ⊆ touches.filterMap Touch.putName?
  toggles : others.filterMap Touch.toggleName? ⊆ touches.filterMap Touch.toggleName?

namespace Overwrites

variable {others touches' others' : List Touch}

/-- Touches write all that they write. -/
lemma refl (touches : List Touch) : Overwrites touches touches :=
  ⟨List.Subset.refl _, List.Subset.refl _⟩

/-- Any touches write all that none writes. -/
lemma nil (touches : List Touch) : Overwrites touches [] :=
  ⟨List.nil_subset _, List.nil_subset _⟩

/-- One touch that writes an attribute stands for any other that writes it. -/
lemma put {name : String} {value? value?' : Option String}
    (h : Touch.put name value? ∈ touches) : Overwrites touches [.put name value?'] :=
  ⟨List.cons_subset.2 ⟨List.mem_filterMap.2 ⟨_, h, rfl⟩, List.nil_subset _⟩, List.nil_subset _⟩

/-- One touch that adds or removes a class stands for any other that does so. -/
lemma toggle {name : String} {on on' : Bool} (h : Touch.toggle name on ∈ touches) :
    Overwrites touches [.toggle name on'] :=
  ⟨List.nil_subset _, List.cons_subset.2 ⟨List.mem_filterMap.2 ⟨_, h, rfl⟩, List.nil_subset _⟩⟩

/-- What each of two parts writes is written by both. -/
lemma append (h : Overwrites touches others) (h' : Overwrites touches' others') :
    Overwrites (touches ++ touches') (others ++ others') := by
  refine ⟨?_, ?_⟩ <;> simp only [List.filterMap_append]
  · exact List.append_subset.2 ⟨List.subset_append_of_subset_left _ h.puts,
      List.subset_append_of_subset_right _ h'.puts⟩
  · exact List.append_subset.2 ⟨List.subset_append_of_subset_left _ h.toggles,
      List.subset_append_of_subset_right _ h'.toggles⟩

/-- What is written for each of several things overwrites what others write for it. -/
lemma flatMap {α : Type} {xs : List α} {f g : α → List Touch}
    (h : ∀ x ∈ xs, Overwrites (f x) (g x)) : Overwrites (xs.flatMap f) (xs.flatMap g) := by
  induction xs with
  | nil => exact nil []
  | cons x xs ih =>
    obtain ⟨hfirst, hlater⟩ := List.forall_mem_cons.1 h
    exact hfirst.append (ih hlater)

end Overwrites

/-- Touches that write all that undoing removes make elements alike that are undone in the same
way. -/
lemma rearranged_attrsAfter {undoing : List Touch} (hundoes : ∀ touch ∈ undoing, touch.Undoes)
    (h : attrsAfter undoing A = attrsAfter undoing B) (hover : Overwrites touches undoing)
    (hproper : ∀ touch ∈ touches, touch.Proper) (hA : (A.map Prod.fst).Nodup)
    (hB : (B.map Prod.fst).Nodup) :
    Rearranged (attrsAfter touches A) (attrsAfter touches B) :=
  ((likeBut_of_undone hundoes h).attrsAfter hproper).rearranged
    (fun _ hp => hp.2 (hover.puts hp.1)) (fun _ hq => hq.2 (hover.toggles hq.1))
    (nodup_attrsAfter touches hA) (nodup_attrsAfter touches hB)

namespace AttributeOperator

variable {c : Setting} {t : Tree Unit} {scope : Value} {operand : String}
  {operator : AttributeOperator} {noted : List Fault} {cause : Cause}

/-- Nothing but a formatter makes an operator give up its branch. -/
lemma custom_of_refused (h : operator.script c t scope operand = [.refuse cause])
    (hclass : cause.faultClass = .other) : ∃ message, cause = .custom message := by
  -- what the model lacks and what is wrong with the template are faults of other classes
  have hstop (hcause : cause.faultClass = .content ∨ cause.faultClass = .assertion) :
      ∃ message, cause = .custom message := by
    rw [hclass] at hcause
    rcases hcause with hcause | hcause <;> cases hcause
  have hstrict (hall : ∀ touch ∈ operator.script c t scope operand, touch.Strict) :
      ∃ message, cause = .custom message := by
    rw [h] at hall
    exact hstop (.inr (hall _ List.mem_cons_self))
  cases operator with
  | attributes => exact hstrict (clauses_strict fun _ => clauseScript_strict)
  | classes => exact hstrict (clauses_strict fun _ => classScript_strict)
  | named which =>
    simp only [script, namedScript] at h
    split at h
    · cases h
      exact hstop (.inr rfl)
    · cases hread : Path.read c.model scope operand with
      | error found =>
        simp only [hread, Except.bind, List.cons.injEq, Touch.refuse.injEq, and_true] at h
        exact hstop (h ▸ Path.read_class hread)
      | ok value =>
        cases htext : attributeText? which.name value with
        | error found =>
          simp only [hread, Except.bind, htext, List.cons.injEq, Touch.refuse.injEq, and_true] at h
          exact hstop (h ▸ .inr (attributeText?_class htext))
        | ok text? => simp [hread, Except.bind, htext] at h
  | value =>
    simp only [script, valueScript] at h
    cases hread : Path.read c.model scope operand with
    | error found =>
      simp only [hread, List.cons.injEq, Touch.refuse.injEq, and_true] at h
      exact hstop (h ▸ Path.read_class hread)
    | ok value =>
      simp only [hread, removeValueScript] at h
      split at h
      · split at h <;> cases h
      · cases hshown : c.display t value with
        | ok text =>
          simp only [hshown] at h
          split at h <;> cases h
        | error found =>
          simp only [hshown, List.cons.injEq, Touch.refuse.injEq, and_true] at h
          subst h
          exact (Setting.display_class hshown).elim (fun h => hstop (.inr h)) id

/-- A touch that stops is not passed. -/
lemma not_passes_refuse : ¬ ∀ touch ∈ [Touch.refuse cause], touch.passes := by
  simp [Touch.passes]

/-- A clause for an attribute writes it. -/
lemma clauseScript_overwrites {clause : Clause}
    (hpasses : ∀ touch ∈ clauseScript c scope operand clause, touch.passes) :
    Overwrites (clauseScript c scope operand clause) [.put clause.name none] := by
  unfold clauseScript at hpasses ⊢
  split
  · rename_i hvalue
    simp only [hvalue] at hpasses
    exact absurd hpasses not_passes_refuse
  · split
    · exact .put List.mem_cons_self
    · exact .put List.mem_cons_self

/-- A clause for a class with a condition adds it or removes it. One without a condition is not
undone. -/
lemma classScript_overwrites {clause : Clause}
    (hpasses : ∀ touch ∈ classScript c scope operand clause, touch.passes) :
    Overwrites (classScript c scope operand clause) (undoClause clause) := by
  unfold undoClause
  cases hvalue : clause.value? with
  | none => exact .nil _
  | some name =>
    unfold classScript toggleScript at hpasses ⊢
    rw [hvalue] at hpasses ⊢
    dsimp only at hpasses ⊢
    cases hparse : Condition.parseAt operand clause.start clause.name.toList with
    | error error =>
      rw [hparse] at hpasses
      exact absurd hpasses not_passes_refuse
    | ok condition =>
      rw [hparse] at hpasses
      dsimp only at hpasses ⊢
      cases hholds : condition.holds c.model scope with
      | error cause =>
        rw [hholds] at hpasses
        exact absurd hpasses not_passes_refuse
      | ok answer => exact .toggle (List.mem_append_right _ List.mem_cons_self)

/-- An operator that plays its script writes all that undoing it removes. -/
lemma script_overwrites (hpasses : ∀ touch ∈ operator.script c t scope operand, touch.passes) :
    Overwrites (operator.script c t scope operand) (operator.undoScript t operand) := by
  cases operator with
  | attributes =>
    simp only [script, undoScript] at hpasses ⊢
    cases hparse : Clause.parse operand with
    | error cause =>
      rw [hparse] at hpasses
      exact absurd hpasses not_passes_refuse
    | ok clauses =>
      rw [hparse] at hpasses
      dsimp only
      rw [List.map_eq_flatMap]
      exact .flatMap fun clause hclause => clauseScript_overwrites fun touch ht =>
        hpasses touch (List.mem_flatMap.2 ⟨clause, hclause, ht⟩)
  | classes =>
    simp only [script, undoScript] at hpasses ⊢
    cases hparse : Clause.parse operand with
    | error cause =>
      rw [hparse] at hpasses
      exact absurd hpasses not_passes_refuse
    | ok clauses =>
      rw [hparse] at hpasses
      exact .flatMap fun clause hclause => classScript_overwrites fun touch ht =>
        hpasses touch (List.mem_flatMap.2 ⟨clause, hclause, ht⟩)
  | named which =>
    simp only [script, undoScript, namedScript] at hpasses ⊢
    split at hpasses
    · exact absurd hpasses not_passes_refuse
    · rename_i hsupported
      rw [if_neg hsupported]
      split at hpasses
      · exact .put List.mem_cons_self
      · exact absurd hpasses not_passes_refuse
  | value =>
    simp only [script, undoScript, valueScript] at hpasses ⊢
    split at hpasses
    · exact absurd hpasses not_passes_refuse
    · split at hpasses
      · rename_i hnull
        rw [if_pos hnull]
        exact .refl _
      · rename_i hnull
        rw [if_neg hnull]
        split at hpasses
        · exact absurd hpasses not_passes_refuse
        · -- a value is an attribute of form controls, and a text of other elements
          unfold removeValueScript
          split
          · exact .put List.mem_cons_self
          · exact ⟨List.nil_subset _, List.nil_subset _⟩

/-- An operator whose formatter does not fail writes all that undoing it removes. -/
lemma Does.overwrites (h : operator.Does c t scope operand touches noted)
    (hnoted : ∀ f ∈ noted, f.Formatted) : Overwrites touches (operator.undoScript t operand) := by
  cases h with
  | done hpasses => exact script_overwrites hpasses
  | undone => exact .refl _
  | abandoned cause hscript hclass =>
    obtain ⟨message, hcustom⟩ := custom_of_refused hscript hclass
    exact absurd hcustom (hnoted _ List.mem_cons_self message)

/-- An operator that shows a value in an element, and whose formatter does not fail, leaves nothing
of the texts that were there. -/
lemma Does.rewrites (h : AttributeOperator.value.Does c t scope operand touches noted)
    (hnoted : ∀ f ∈ noted, f.Formatted) (htag : t.hasTag valueTags = false) :
    ∃ touch ∈ touches, touch.refill ≠ .keep := by
  have hundo : removeValueScript t = [.removeText] := by
    rw [removeValueScript, htag]
    rfl
  cases h with
  | done hpasses =>
    simp only [script, valueScript, hundo, htag] at hpasses ⊢
    cases hread : Path.read c.model scope operand with
    | error found =>
      rw [hread] at hpasses
      exact absurd hpasses not_passes_refuse
    | ok value =>
      rw [hread] at hpasses
      dsimp only at hpasses ⊢
      split
      · exact ⟨.removeText, List.mem_cons_self, by simp [Touch.refill]⟩
      · rename_i hnull
        rw [if_neg hnull] at hpasses
        cases hshown : c.display t value with
        | error found =>
          rw [hshown] at hpasses
          exact absurd hpasses not_passes_refuse
        | ok text => exact ⟨.fillText text, List.mem_cons_self, by simp [Touch.refill]⟩
  | undone => exact ⟨.removeText, by simp [undoScript, hundo], by simp [Touch.refill]⟩
  | abandoned cause hscript hclass =>
    obtain ⟨message, hcustom⟩ := custom_of_refused hscript hclass
    exact absurd hcustom (hnoted _ List.mem_cons_self message)

end AttributeOperator

/-! ## Operators one after another -/

/-- Touches leave what is below an element as it is only if each of them does. -/
lemma refillOf_ne_keep (h : ∃ touch ∈ touches, touch.refill ≠ .keep) :
    refillOf touches ≠ .keep := by
  have hstep (r g : Refill) (hne : r ≠ .keep ∨ g ≠ .keep) : r.andThen g ≠ .keep := by
    cases r <;> cases g <;> simp_all [Refill.andThen]
  suffices hall : ∀ r : Refill, r ≠ .keep ∨ (∃ touch ∈ touches, touch.refill ≠ .keep) →
      touches.foldl (fun r touch => r.andThen touch.refill) r ≠ .keep from hall _ (.inr h)
  clear h
  induction touches with
  | nil =>
    intro r hr
    simpa using hr
  | cons touch touches ih =>
    intro r hr
    refine ih _ ?_
    rcases hr with hr | ⟨other, hother, hne⟩
    · exact .inl (hstep _ _ (.inl hr))
    · rcases List.mem_cons.1 hother with rfl | hlater
      · exact .inl (hstep _ _ (.inr hne))
      · exact .inr ⟨other, hlater, hne⟩

namespace DoesAll

variable {c : Setting} {t : Tree Unit} {scope : Value} {ops : List (AttributeOperator × String)}
  {noted : List Fault}

/-- Operators whose formatters do not fail write all that undoing them removes. -/
lemma overwrites (h : DoesAll c t scope ops touches noted) (hnoted : ∀ f ∈ noted, f.Formatted) :
    Overwrites touches (ops.flatMap fun op => op.1.undoScript t op.2) := by
  induction h with
  | nil => exact .nil []
  | cons hfirst hlater ih =>
    obtain ⟨hfirstNoted, hlaterNoted⟩ := List.forall_mem_append.1 hnoted
    exact (hfirst.overwrites hfirstNoted).append (ih hlaterNoted)

/-- Operators that show a value in an element, and whose formatters do not fail, leave nothing of
the texts that were there. -/
lemma rewrites (h : DoesAll c t scope ops touches noted) (hnoted : ∀ f ∈ noted, f.Formatted)
    (hop : ∃ op ∈ ops, op.1 = .value) (htag : t.hasTag valueTags = false) :
    ∃ touch ∈ touches, touch.refill ≠ .keep := by
  induction h with
  | nil =>
    obtain ⟨op, hop, -⟩ := hop
    cases hop
  | cons hfirst hlater ih =>
    obtain ⟨hfirstNoted, hlaterNoted⟩ := List.forall_mem_append.1 hnoted
    obtain ⟨op, hop, hvalue⟩ := hop
    rcases List.mem_cons.1 hop with rfl | hop
    · subst hvalue
      obtain ⟨touch, ht, hrefill⟩ := hfirst.rewrites hfirstNoted htag
      exact ⟨touch, List.mem_append_left _ ht, hrefill⟩
    · obtain ⟨touch, ht, hrefill⟩ := ih hlaterNoted ⟨op, hop, hvalue⟩
      exact ⟨touch, List.mem_append_right _ ht, hrefill⟩

end DoesAll

end TreeTemplate
