import Mathlib.Data.List.DropRight
import TreeTemplate.Proofs.Attributes.Sequence

/-!
# What an element declares

Conditions on the attributes of single elements, under which elements behave well when they are
injected again and again. They look at the directives of an element and at its tag.

Main statements:

* `Head.attributes_eq` — the operators of an element that set attributes;
* `Head.Unmarked.unreserved` — operators that do not write what begins like a directive.
-/

namespace TreeTemplate

open AttributeOperator

/-! ## Classes in operands -/

/-- A text that is not blank is not empty without the blanks around it. -/
lemma Text.trim_ne_nil {s : List Char} (h : allBlank s = false) : trim s ≠ [] := by
  intro hnil
  have hend : ∀ c ∈ trimStart s, isBlank c = true := by
    have hdrop := List.reverse_eq_nil_iff.1 hnil
    simpa using List.dropWhile_eq_nil_iff.1 hdrop
  have hstart : trimStart s = [] := by
    rw [← List.dropWhile_eq_nil_iff] at hend
    rwa [trimStart, List.dropWhile_idempotent] at hend
  have hall : allBlank s = true := List.all_eq_true.2 (List.dropWhile_eq_nil_iff.1 hstart)
  rw [h] at hall
  cases hall

namespace Clause

variable {operand : String} {clause : Clause}

/-- The value of a clause is not empty. -/
lemma value_ne_empty {piece : Text.Piece} (h : ofPiece operand piece = .ok clause)
    {name : String} (hname : clause.value? = some name) : name ≠ "" := by
  unfold ofPiece at h
  cases hsplit : Text.splitOnce ':' piece.chars with
  | none =>
    simp only [hsplit, bind, Except.bind] at h
    split at h <;> cases h
    cases hname
  | some parts =>
    obtain ⟨before, value⟩ := parts
    simp only [hsplit, bind, Except.bind] at h
    cases hblank : Text.allBlank value with
    | true =>
      rw [hblank] at h
      cases h
    | false =>
      simp only [hblank, Bool.false_eq_true, if_false] at h
      split at h <;> cases h
      cases hname
      intro hempty
      apply Text.trim_ne_nil hblank
      simpa using congrArg String.toList hempty

/-- A clause that was read was read from a part of the operand. -/
lemma exists_piece {pieces : List Text.Piece} {clauses : List Clause}
    (h : ofPieces operand pieces = .ok clauses) (hm : clause ∈ clauses) :
    ∃ piece, ofPiece operand piece = .ok clause := by
  induction pieces generalizing clauses with
  | nil =>
    cases h
    cases hm
  | cons piece pieces ih =>
    simp only [ofPieces] at h
    split at h
    · split at h <;> cases h
      cases hm
    · cases hfirst : ofPiece operand piece with
      | error e =>
        rw [hfirst] at h
        cases h
      | ok first =>
        cases hlater : ofPieces operand pieces with
        | error e =>
          rw [hfirst, hlater] at h
          cases h
        | ok later =>
          rw [hfirst, hlater] at h
          cases h
          rcases List.mem_cons.1 hm with rfl | hm
          · exact ⟨piece, hfirst⟩
          · exact ih hlater hm

end Clause

/-- No class in an operand is empty. -/
lemma ne_empty_of_mem_classNames {operand name : String} (hname : name ∈ classNames operand) :
    name ≠ "" := by
  unfold classNames at hname
  cases hparse : Clause.parse operand with
  | error cause =>
    rw [hparse] at hname
    cases hname
  | ok clauses =>
    rw [hparse] at hname
    obtain ⟨clause, hm, hvalue⟩ := List.mem_filterMap.1 hname
    unfold Clause.parse at hparse
    split at hparse
    · cases hparse
    · cases hparse
    · rename_i hpieces
      cases hparse
      obtain ⟨piece, hpiece⟩ := Clause.exists_piece hpieces hm
      exact Clause.value_ne_empty hpiece hvalue

namespace Head

variable {d : Dialect} {h : Head}

/-- An element by itself, as an element of a tree. -/
def shell (h : Head) : Tree Unit :=
  .element () h.tag h.attrs h.hidden []

/-- The operators that set attributes among the directives of an element, with their operands. -/
def setters (d : Dialect) (h : Head) : List (AttributeOperator × String) :=
  h.attrs.filterMap fun attr =>
    match d.operator? attr.1 with
    | some (.attr operator) => some (operator, attr.2)
    | _ => none

/-- An element is not left by a jump. -/
def JumpFree (d : Dialect) (h : Head) : Prop :=
  ∀ attr ∈ h.attrs, d.operator? attr.1 ≠ some .jump

/-- No clause for an attribute names one that begins like a directive. -/
def Unmarked (d : Dialect) (h : Head) : Prop :=
  ∀ op ∈ h.setters d, op.1 = .attributes → ∀ name ∈ clauseNames op.2, d.marks name = false

/-- The operators of an element write different attributes, and each of them once. -/
def WritesOnce (d : Dialect) (h : Head) : Prop :=
  ((h.setters d).flatMap fun op => op.1.written h.shell op.2).Nodup

/-- Every clause for a class has a condition, and its class holds no blank. -/
def Classed (d : Dialect) (h : Head) : Prop :=
  ∀ op ∈ h.setters d, op.1 = .classes → Conditional op.2 ∧
    ∀ name ∈ classNames op.2, ∀ c ∈ name.toList, Text.isBlank c = false

/-- The clauses for classes of a directive are about different classes. -/
def ClassesOnce (d : Dialect) (h : Head) : Prop :=
  ∀ op ∈ h.setters d, op.1 = .classes → (classNames op.2).Nodup

instance (d : Dialect) (h : Head) : Decidable (h.JumpFree d) :=
  inferInstanceAs (Decidable (∀ attr ∈ h.attrs, d.operator? attr.1 ≠ some .jump))

instance (d : Dialect) (h : Head) : Decidable (h.Unmarked d) :=
  inferInstanceAs (Decidable (∀ op ∈ h.setters d, op.1 = .attributes →
    ∀ name ∈ clauseNames op.2, d.marks name = false))

instance (d : Dialect) (h : Head) : Decidable (h.WritesOnce d) :=
  inferInstanceAs (Decidable (List.Nodup _))

/-- Only the characters of a text are looked at, and not all there are. -/
instance decidableUnblank (s : List Char) : Decidable (∀ c ∈ s, Text.isBlank c = false) :=
  List.decidableBAll _ s

instance (d : Dialect) (h : Head) : Decidable (h.Classed d) :=
  inferInstanceAs (Decidable (∀ op ∈ h.setters d, op.1 = .classes → Conditional op.2 ∧
    ∀ name ∈ classNames op.2, ∀ c ∈ name.toList, Text.isBlank c = false))

instance (d : Dialect) (h : Head) : Decidable (h.ClassesOnce d) :=
  inferInstanceAs (Decidable (∀ op ∈ h.setters d, op.1 = .classes → (classNames op.2).Nodup))

/-- The directives that set attributes are those among the attributes. -/
lemma attributes_eq {element : String} {ds : Directives}
    (hds : Directives.ofAttrs d element h.attrs = .ok ds) : ds.attributes = h.setters d := by
  have hadd : ∀ (attrs : List (String × String)) (ds ds' : Directives),
      attrs.foldlM (Directives.add d element) ds = .ok ds' →
        ds'.attributes = ds.attributes ++ attrs.filterMap fun attr =>
          match d.operator? attr.1 with
          | some (.attr operator) => some (operator, attr.2)
          | _ => none := by
    intro attrs
    induction attrs with
    | nil =>
      intro ds ds' h
      cases h
      simp
    | cons attr attrs ih =>
      intro ds ds' h
      obtain ⟨next, hnext, hrest⟩ := Directives.foldlM_cons_eq_ok h
      rw [ih next ds' hrest]
      rcases Directives.add_eq_ok hnext with
        ⟨e, rfl⟩ | ⟨e, rfl⟩ | ⟨_, e, _, rfl⟩ | ⟨_, e, _, rfl⟩ | ⟨_, e, rfl⟩ <;>
        simp [e]
  exact (hadd h.attrs {} ds hds).trans (List.nil_append _)

/-- No operator of an element writes what is reserved, as long as no clause names it. -/
lemma Unmarked.unreserved (hunmarked : h.Unmarked d) :
    Unreserved d h.shell (h.setters d) := by
  intro op hop name hname
  obtain ⟨operator, operand⟩ := op
  cases operator with
  | attributes => exact d.reserves_eq_false (hunmarked _ hop rfl name hname)
  | classes =>
    apply Dialect.reserves_own
    rw [List.mem_singleton.1 hname]
    decide
  | named which =>
    apply Dialect.reserves_own
    rw [List.mem_singleton.1 hname]
    cases which <;> decide
  | value =>
    apply Dialect.reserves_own
    simp only [written] at hname
    split at hname
    · rw [List.mem_singleton.1 hname]
      decide
    · cases hname

/-- Where no clause names an attribute that begins like a directive, no operator writes a reserved
name. -/
lemma Unmarked.unreserved_of (hunmarked : h.Unmarked d) {element : String} {ds : Directives}
    (hds : Directives.ofAttrs d element h.attrs = .ok ds) :
    Unreserved d h.shell ds.attributes := by
  rw [attributes_eq hds]
  exact hunmarked.unreserved

/-! ## Elements with the same directives -/

/-- Two elements have the same tag, the same directives and the same formatter. -/
def Agrees (d : Dialect) (h h' : Head) : Prop :=
  h'.tag = h.tag ∧ h'.attrs.filter (fun attr => d.reserves attr.1) =
    h.attrs.filter fun attr => d.reserves attr.1

/-- Whether an element declares an operator of some kind that fills its content. -/
def fills (d : Dialect) (p : ContentOperator → Bool) (h : Head) : Bool :=
  h.attrs.any fun attr =>
    match d.operator? attr.1 with
    | some (.content operator) => p operator
    | _ => false

namespace Agrees

variable {h' h'' : Head}

/-- An element agrees with itself. -/
lemma refl (h : Head) : h.Agrees d h := ⟨rfl, rfl⟩

/-- An element agrees with what agrees with one that it agrees with. -/
lemma trans (h₁ : h.Agrees d h') (h₂ : h'.Agrees d h'') : h.Agrees d h'' :=
  ⟨h₂.1.trans h₁.1, h₂.2.trans h₁.2⟩

/-- If an element agrees with another one, the other agrees with it. -/
lemma symm (hagrees : h.Agrees d h') : h'.Agrees d h :=
  ⟨hagrees.1.symm, hagrees.2.symm⟩

/-- A directive of one element is one of the other. -/
lemma mem (hagrees : h.Agrees d h') {attr : String × String} (hattr : attr ∈ h'.attrs)
    (hreserved : d.reserves attr.1 = true) : attr ∈ h.attrs := by
  have hmem : attr ∈ h'.attrs.filter fun attr => d.reserves attr.1 :=
    List.mem_filter.2 ⟨hattr, hreserved⟩
  rw [hagrees.2] at hmem
  exact (List.mem_filter.1 hmem).1

/-- Of elements that agree both are left by a jump or none. -/
lemma jumpFree (hagrees : h.Agrees d h') (hfree : h.JumpFree d) : h'.JumpFree d := by
  intro attr hattr hjump
  exact hfree attr (hagrees.mem hattr (by simp [Dialect.reserves, hjump])) hjump

/-- Elements that agree have the same operators that set attributes. -/
lemma setters (hagrees : h.Agrees d h') : h'.setters d = h.setters d := by
  have hfilter (h : Head) : h.setters d =
      (h.attrs.filter fun attr => d.reserves attr.1).filterMap fun attr =>
        match d.operator? attr.1 with
        | some (.attr operator) => some (operator, attr.2)
        | _ => none := by
    rw [List.filterMap_filter]
    refine List.filterMap_congr fun attr _ => ?_
    cases hop : d.operator? attr.1 with
    | none => cases d.reserves attr.1 <;> rfl
    | some operator => simp [Dialect.reserves, hop]
  rw [hfilter h', hagrees.2, ← hfilter h]

/-- Of elements that agree both name attributes that begin like directives or none. -/
lemma unmarked (hagrees : h.Agrees d h') (hunmarked : h.Unmarked d) : h'.Unmarked d := by
  intro op hop
  rw [hagrees.setters] at hop
  exact hunmarked op hop

/-- Elements that agree are filled by operators of the same kinds. -/
lemma fills_eq (hagrees : h.Agrees d h') (p : ContentOperator → Bool) :
    h'.fills d p = h.fills d p := by
  have hmono (h h' : Head) (hagrees : h.Agrees d h') (hfills : h'.fills d p = true) :
      h.fills d p = true := by
    obtain ⟨attr, hattr, hp⟩ := List.any_eq_true.1 hfills
    refine List.any_eq_true.2 ⟨attr, hagrees.mem hattr ?_, hp⟩
    cases hop : d.operator? attr.1 with
    | none => simp [hop] at hp
    | some operator => simp [Dialect.reserves, hop]
  rw [Bool.eq_iff_iff]
  exact ⟨hmono h h' hagrees, hmono h' h hagrees.symm⟩

end Agrees

/-- An element declares the operator that fills its content. -/
lemma fills_of_content? {element : String} {ds : Directives}
    (hds : Directives.ofAttrs d element h.attrs = .ok ds) (p : ContentOperator → Bool) :
    h.fills d p = ds.content?.any fun content => p content.1 := by
  rw [Bool.eq_iff_iff]
  constructor
  · intro hfills
    obtain ⟨attr, hattr, hp⟩ := List.any_eq_true.1 hfills
    cases hop : d.operator? attr.1 with
    | none => simp [hop] at hp
    | some operator =>
      cases operator with
      | content operator =>
        rw [Directives.content?_of_mem hds hattr hop]
        simpa [hop] using hp
      | _ => simp [hop] at hp
  · intro hany
    have hdeclared : ∀ operator operand, ds.content? = some (operator, operand) →
        ∃ attr ∈ h.attrs, d.operator? attr.1 = some (.content operator) := by
      refine Directives.foldlM_induction (p := fun ds => ∀ operator operand,
        ds.content? = some (operator, operand) →
          ∃ attr ∈ h.attrs, d.operator? attr.1 = some (.content operator))
        (fun attr hattr ds ds' hp hadd => ?_) (by simp) hds
      rcases Directives.add_eq_ok hadd with
        ⟨_, rfl⟩ | ⟨_, rfl⟩ | ⟨_, _, _, rfl⟩ | ⟨operator, hop, _, rfl⟩ | ⟨_, _, rfl⟩
      · exact hp
      · exact hp
      · exact hp
      · intro operator' operand' h
        cases h
        exact ⟨attr, hattr, hop⟩
      · exact hp
    cases hcontent : ds.content? with
    | none => simp [hcontent] at hany
    | some content =>
      obtain ⟨attr, hattr, hop⟩ := hdeclared content.1 content.2 hcontent
      refine List.any_eq_true.2 ⟨attr, hattr, ?_⟩
      rw [hop]
      simpa [hcontent] using hany

/-- An element is filled with markup if it declares that operator. -/
lemma holdsMarkup_eq (d : Dialect) (h : Head) :
    Stocked.holdsMarkup d h = h.fills d fun operator => operator == .html := by
  unfold Stocked.holdsMarkup fills
  congr 1
  funext attr
  cases d.operator? attr.1 with
  | none => rfl
  | some operator =>
    cases operator with
    | content operator => cases operator <;> rfl
    | _ => rfl

/-- Clauses with conditions and classes that are different ones do not undo one another. -/
lemma Classed.distinct (hclassed : h.Classed d) (honce : h.ClassesOnce d) {operand : String}
    (hop : (.classes, operand) ∈ h.setters d) : DistinctClasses operand where
  conditional := (hclassed _ hop rfl).1
  nodup := honce _ hop rfl
  isClass name hname := ⟨ne_empty_of_mem_classNames hname, (hclassed _ hop rfl).2 name hname⟩

end Head

/-- A touch that writes nothing reserved leaves the directives as they are. -/
lemma Touch.agrees {d : Dialect} {touch : Touch}
    (hname : ∀ name, touch.name? = some name → d.reserves name = false) (P : Element Unit) :
    P.head.Agrees d (touch.apply P).head := by
  rw [Touch.apply_eq]
  exact ⟨rfl, touch.filter_onAttrs d.reserves hname P.head.attrs⟩

end TreeTemplate
