import TreeTemplate.Proofs.Stocked.Element
import TreeTemplate.Walk.Directives

/-!
# Which attributes declare what

Only the attributes that are directives count for the directives of an element. Where they can be
read, at most one of them fills the content.

Main statements:

* `Directives.add_eq_ok` — what an attribute adds;
* `Directives.jump?_eq_none`, `Directives.holdsMarkup_eq_false` — what an element without jumps and
  one that is filled with markup declare.
-/

namespace TreeTemplate

namespace Directives

variable {dialect : Dialect} {element : String} {ds ds' : Directives}
  {attr : String × String} {attrs : List (String × String)}

/-- What an attribute adds to the directives: nothing, or one operator of its group. -/
lemma add_eq_ok (h : add dialect element ds attr = .ok ds') :
    (dialect.operator? attr.1 = none ∧ ds' = ds) ∨
    (dialect.operator? attr.1 = some .jump ∧ ds' = { ds with jump? := some attr.2 }) ∨
    (∃ operator, dialect.operator? attr.1 = some (.conditional operator) ∧
      ds.conditional? = none ∧ ds' = { ds with conditional? := some (operator, attr.2) }) ∨
    (∃ operator, dialect.operator? attr.1 = some (.content operator) ∧ ds.content? = none ∧
      ds' = { ds with content? := some (operator, attr.2) }) ∨
    (∃ operator, dialect.operator? attr.1 = some (.attr operator) ∧
      ds' = { ds with attributes := ds.attributes ++ [(operator, attr.2)] }) := by
  obtain ⟨name, operand⟩ := attr
  simp only [add] at h
  split at h
  · rename_i e
    cases h
    exact .inl ⟨e, rfl⟩
  · rename_i e
    split at h <;> cases h
    exact .inr (.inl ⟨e, rfl⟩)
  · rename_i operator e
    split at h <;> cases h
    rename_i hnone
    exact .inr (.inr (.inl ⟨operator, e, hnone, rfl⟩))
  · rename_i operator e
    split at h <;> cases h
    rename_i hnone
    exact .inr (.inr (.inr (.inl ⟨operator, e, hnone, rfl⟩)))
  · rename_i operator e
    cases h
    exact .inr (.inr (.inr (.inr ⟨operator, e, rfl⟩)))

/-- The directives that further attributes add. -/
lemma foldlM_cons_eq_ok (h : (attr :: attrs).foldlM (add dialect element) ds = .ok ds') :
    ∃ next, add dialect element ds attr = .ok next ∧
      attrs.foldlM (add dialect element) next = .ok ds' := by
  rw [List.foldlM_cons] at h
  cases e : add dialect element ds attr with
  | error cause =>
    rw [e] at h
    cases h
  | ok next =>
    rw [e] at h
    exact ⟨next, rfl, h⟩

/-- A property that every attribute keeps holds of the directives of an element. -/
lemma foldlM_induction {p : Directives → Prop}
    (hadd : ∀ attr ∈ attrs, ∀ ds ds', p ds → add dialect element ds attr = .ok ds' → p ds')
    (hp : p ds) (h : attrs.foldlM (add dialect element) ds = .ok ds') : p ds' := by
  induction attrs generalizing ds with
  | nil =>
    cases h
    exact hp
  | cons attr attrs ih =>
    obtain ⟨next, hnext, hrest⟩ := foldlM_cons_eq_ok h
    exact ih (fun attr ha => hadd attr (List.mem_cons_of_mem _ ha))
      (hadd attr List.mem_cons_self _ _ hp hnext) hrest

/-- An element without jumps declares none. -/
lemma jump?_eq_none (h : ofAttrs dialect element attrs = .ok ds)
    (hattrs : ∀ attr ∈ attrs, dialect.operator? attr.1 ≠ some .jump) : ds.jump? = none := by
  refine foldlM_induction (p := fun ds => ds.jump? = none) (fun attr ha ds ds' hp hadd => ?_)
    rfl h
  rcases add_eq_ok hadd with ⟨_, rfl⟩ | ⟨e, _⟩ | ⟨_, _, _, rfl⟩ | ⟨_, _, _, rfl⟩ | ⟨_, _, rfl⟩
  · exact hp
  · exact absurd e (hattrs attr ha)
  · exact hp
  · exact hp
  · exact hp

/-- An operator that fills the content stays the only one. -/
lemma content?_foldlM {content : ContentOperator × String} (hds : ds.content? = some content)
    (h : attrs.foldlM (add dialect element) ds = .ok ds') : ds'.content? = some content := by
  refine foldlM_induction (p := fun ds => ds.content? = some content)
    (fun attr ha ds ds' hp hadd => ?_) hds h
  rcases add_eq_ok hadd with ⟨_, rfl⟩ | ⟨_, rfl⟩ | ⟨_, _, _, rfl⟩ | ⟨_, _, e, _⟩ | ⟨_, _, rfl⟩
  · exact hp
  · exact hp
  · exact hp
  · rw [hp] at e
    cases e
  · exact hp

/-- An attribute that declares how the content is filled is the one that does. -/
lemma content?_of_mem {operator : ContentOperator} (h : ofAttrs dialect element attrs = .ok ds)
    (hattr : attr ∈ attrs) (e : dialect.operator? attr.1 = some (.content operator)) :
    ds.content? = some (operator, attr.2) := by
  unfold ofAttrs at h
  generalize ({} : Directives) = start at h
  induction attrs generalizing start with
  | nil => cases hattr
  | cons first attrs ih =>
    obtain ⟨next, hnext, hrest⟩ := foldlM_cons_eq_ok h
    rcases List.mem_cons.1 hattr with rfl | hattr
    · refine content?_foldlM ?_ hrest
      rcases add_eq_ok hnext with
        ⟨e', _⟩ | ⟨e', _⟩ | ⟨_, e', _⟩ | ⟨_, e', _, rfl⟩ | ⟨_, e', _⟩ <;>
        rw [e] at e' <;> cases e'
      rfl
    · exact ih hattr _ hrest

/-- Where the content is not filled with markup, no attribute says that it is. -/
lemma holdsMarkup_eq_false {head : Head} (h : ofAttrs dialect element head.attrs = .ok ds)
    (hcontent : ∀ operand, ds.content? ≠ some (.html, operand)) :
    Stocked.holdsMarkup dialect head = false := by
  refine List.any_eq_false.2 fun attr hattr he => ?_
  exact hcontent attr.2 (content?_of_mem h hattr (by simpa using he))

end Directives

end TreeTemplate
