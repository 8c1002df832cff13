import TreeTemplate.Proofs.Local.Content

/-!
# Items by themselves

What a list or a map becomes is made up of what each of its copies becomes by itself: the copies do
not depend on each other, and none is lost, doubled or moved.

Main statements:

* `forall_of_expand`, `expand_of_ok` — all copies succeed, and each becomes what it becomes alone.
-/

namespace TreeTemplate

/-- The copies of servings, each with the positions in the ordered lists and maps around it. The
copies of one serving have the same position. -/
def numbered {α : Type} (positions : List Nat) (ordered : Bool) :
    Nat → List (List α) → List (List Nat × α)
  | _, [] => []
  | k, serving :: later =>
    serving.map (fun copy => (if ordered then k :: positions else positions, copy)) ++
      numbered positions ordered (k + 1) later

/-- Numbering does not depend on what is numbered. -/
lemma numbered_map {α β : Type} (f : α → β) (positions : List Nat) (ordered : Bool) (k : Nat)
    (servings : List (List α)) : numbered positions ordered k (servings.map (List.map f)) =
      (numbered positions ordered k servings).map fun copy => (copy.1, f copy.2) := by
  induction servings generalizing k with
  | nil => rfl
  | cons serving later ih => simp [numbered, ih]

/-- What is numbered is one of the things that were to be numbered. -/
lemma mem_of_mem_numbered {α : Type} {positions : List Nat} {ordered : Bool} {k : Nat}
    {servings : List (List α)} {copy : List Nat × α}
    (h : copy ∈ numbered positions ordered k servings) : ∃ serving ∈ servings, copy.2 ∈
      serving := by
  induction servings generalizing k with
  | nil => cases h
  | cons serving later ih =>
    rcases List.mem_append.1 h with h | h
    · obtain ⟨x, hx, rfl⟩ := List.mem_map.1 h
      exact ⟨serving, List.mem_cons_self, hx⟩
    · obtain ⟨serving', hserving, hmem⟩ := ih h
      exact ⟨serving', List.mem_cons_of_mem _ hserving, hmem⟩

/-- Where no positions are counted, the copy for each item has the positions around the list. -/
lemma numbered_items {α β : Type} (positions : List Nat) (t : α) (items : List β) (k : Nat) :
    numbered positions false k (items.map fun item => [(t, item)]) =
      items.map fun item => (positions, t, item) := by
  induction items generalizing k with
  | nil => rfl
  | cons item items ih => simp [numbered, ih]

namespace Local

variable {walk : List Nat → Value → Local (Element Unit) Unit} {positions : List Nat}
    {ordered : Bool}
  {ts : List (Stocked Unit)} {xs : List (Stocked Unit × Local (Element Unit) Unit)}

/-- What becomes of a copy of a template by itself. -/
def alone (walk : List Nat → Value → Local (Element Unit) Unit)
    (copy : List Nat × Stocked Unit × Value) : Yield (Stocked Unit) Unit :=
  onElement (walk copy.1 copy.2.2) copy.2.1.copy

/-- Where nodes side by side are walked to the end, each of them is. -/
lemma forall_of_sweep (h : (sweep xs).result = .ok ()) :
    ∀ x ∈ xs, (onElement x.2 x.1).result = .ok () := by
  induction xs with
  | nil => exact fun x hx => nomatch hx
  | cons x xs ih =>
    obtain ⟨t, act⟩ := x
    rcases e : onElement act t with ⟨_ | _, u, notes⟩
    · rw [sweep_cons_of_error e] at h
      cases h
    · rw [sweep_cons_of_ok e] at h
      exact List.forall_mem_cons.2 ⟨congrArg Yield.result e, ih h⟩

/-- Nodes side by side become what each of them becomes by itself. -/
lemma sweep_of_ok (h : ∀ x ∈ xs, (onElement x.2 x.1).result = .ok ()) :
    sweep xs = ⟨.ok (), xs.map fun x => (onElement x.2 x.1).state,
      xs.flatMap fun x => (onElement x.2 x.1).notes⟩ := by
  induction xs with
  | nil => rfl
  | cons x xs ih =>
    obtain ⟨t, act⟩ := x
    obtain ⟨hfirst, hlater⟩ := List.forall_mem_cons.1 h
    rcases e : onElement act t with ⟨_ | _, u, notes⟩
    · rw [e] at hfirst
      cases hfirst
    · rw [sweep_cons_of_ok e, ih hlater, List.map_cons, List.flatMap_cons, e]

variable {k : Nat} {servings : List (List (Stocked Unit × Value))}

/-- Where all copies are walked to the end, each of them is by itself. -/
lemma forall_of_expand (h : (expand positions ordered walk k servings ts).result = .ok ()) :
    ∀ copy ∈ numbered positions ordered k servings, (alone walk copy).result = .ok () := by
  induction servings generalizing k ts with
  | nil => exact fun copy hc => nomatch hc
  | cons serving later ih =>
    obtain ⟨_, hplace, hlater, -, -⟩ := bind_eq_ok h
    intro copy hcopy
    rcases List.mem_append.1 hcopy with hcopy | hcopy
    · obtain ⟨copy, hmem, rfl⟩ := List.mem_map.1 hcopy
      exact forall_of_sweep hplace _
        (List.mem_map_of_mem (List.mem_map_of_mem (f := fun copy => (copy.1, walk _ copy.2)) hmem))
    · exact ih hlater copy hcopy

/-- Each copy becomes what it becomes by itself, and they stand in order. -/
lemma expand_of_ok (ts : List (Stocked Unit))
    (h : ∀ copy ∈ numbered positions ordered k servings, (alone walk copy).result = .ok ()) :
    expand positions ordered walk k servings ts = ⟨.ok (),
      ts ++ (numbered positions ordered k servings).map fun copy => (alone walk copy).state,
      (numbered positions ordered k servings).flatMap fun copy => (alone walk copy).notes⟩ := by
  induction servings generalizing k ts with
  | nil => simp [expand, numbered]
  | cons serving later ih =>
    obtain ⟨hserving, hlater⟩ := List.forall_mem_append.1 h
    let xs : List (Stocked Unit × Local (Element Unit) Unit) := serving.map fun copy =>
      (copy.1.copy, walk (if ordered then k :: positions else positions) copy.2)
    have hsweep : sweep xs = _ := sweep_of_ok fun x hx => by
      obtain ⟨copy, hmem, rfl⟩ := List.mem_map.1 hx
      exact hserving _ (List.mem_map_of_mem hmem)
    have hplace : place (serving.map fun copy =>
        (copy.1, walk (if ordered then k :: positions else positions) copy.2)) ts = ⟨.ok (),
          ts ++ serving.map fun copy =>
            (alone walk (if ordered then k :: positions else positions, copy)).state,
          serving.flatMap fun copy =>
            (alone walk (if ordered then k :: positions else positions, copy)).notes⟩ := by
      simp only [xs, List.map_map, List.flatMap_map, Function.comp_def] at hsweep
      simp only [place, List.map_map, Function.comp_def, hsweep]
      rfl
    rw [expand, bind_of_ok hplace, ih _ hlater]
    simp [numbered, List.flatMap_map]

end Local

end TreeTemplate
