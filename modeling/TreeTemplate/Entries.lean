/-!
# Entries in the order of their keys

Names with what they stand for, one entry a name, in the ascending order of the names. The order
of strings is that of their code points, which is also the order of their bytes in UTF-8.

Main statements:

* `Ascending.insertEntry` — an insertion keeps the order;
* `lookup_insertEntry_self`, `lookup_insertEntry_of_ne` — what is found after an insertion;
* `insertEntry_append` — an entry above all others goes to the end.
-/

namespace TreeTemplate

variable {α : Type}

/-- The names are strictly ascending. -/
def Ascending (entries : List (String × α)) : Prop :=
  (entries.map Prod.fst).Pairwise (· < ·)

/-- Puts an entry in its place; an entry with the same name is replaced. -/
def insertEntry (name : String) (a : α) : List (String × α) → List (String × α)
  | [] => [(name, a)]
  | entry :: later =>
    if name < entry.1 then (name, a) :: entry :: later
    else if name = entry.1 then (name, a) :: later
    else entry :: insertEntry name a later

/-- The entries of a list of pairs; of two pairs with the same name the later one counts. -/
def entriesOf (pairs : List (String × α)) : List (String × α) :=
  pairs.foldl (fun entries pair => insertEntry pair.1 pair.2 entries) []

/-- A key that is there after an entry was put in is its key or was there before. -/
theorem mem_map_fst_insertEntry {name other : String} {a : α} {entries : List (String × α)}
    (h : other ∈ (insertEntry name a entries).map Prod.fst) :
    other = name ∨ other ∈ entries.map Prod.fst := by
  induction entries with
  | nil => simpa [insertEntry] using h
  | cons entry later ih =>
    simp only [insertEntry] at h
    split at h
    · simpa using h
    · split at h
      · rename_i he
        rcases List.mem_cons.1 h with h | h
        · exact .inl h
        · exact .inr (List.mem_cons_of_mem _ h)
      · rcases List.mem_cons.1 h with h | h
        · exact .inr (by simp [h])
        · rcases ih h with h | h
          · exact .inl h
          · exact .inr (List.mem_cons_of_mem _ h)

/-- An insertion keeps the order. -/
theorem Ascending.insertEntry {name : String} {a : α} {entries : List (String × α)}
    (h : Ascending entries) : Ascending (insertEntry name a entries) := by
  induction entries with
  | nil => simp [Ascending, TreeTemplate.insertEntry]
  | cons entry later ih =>
    have hlater : Ascending later := (List.pairwise_cons.1 h).2
    have hbelow : ∀ other ∈ later.map Prod.fst, entry.1 < other := (List.pairwise_cons.1 h).1
    simp only [TreeTemplate.insertEntry]
    split
    · rename_i hlt
      refine List.pairwise_cons.2 ⟨?_, h⟩
      intro other hother
      rcases List.mem_cons.1 hother with rfl | hother
      · exact hlt
      · exact String.lt_trans hlt (hbelow other hother)
    · split
      · rename_i he
        refine List.pairwise_cons.2 ⟨?_, hlater⟩
        intro other hother
        exact he ▸ hbelow other hother
      · rename_i hlt hne
        refine List.pairwise_cons.2 ⟨?_, ih hlater⟩
        intro other hother
        rcases mem_map_fst_insertEntry hother with rfl | hother
        · rcases Std.le_total (a := entry.1) (b := other) with hle | hle
          · exact Std.lt_of_le_of_ne hle fun e => hne e.symm
          · exact absurd (Std.lt_of_le_of_ne hle hne) hlt
        · exact hbelow other hother

/-- The entries of a list of pairs are in order. -/
theorem ascending_entriesOf (pairs : List (String × α)) : Ascending (entriesOf pairs) := by
  have step : ∀ (pairs entries : List (String × α)), Ascending entries →
      Ascending (pairs.foldl (fun entries pair => insertEntry pair.1 pair.2 entries) entries) := by
    intro pairs
    induction pairs with
    | nil => exact fun _ h => h
    | cons pair pairs ih => exact fun _ h => ih _ h.insertEntry
  exact step pairs [] (by simp [Ascending])

/-- The entry that was inserted is found. -/
theorem lookup_insertEntry_self (name : String) (a : α) (entries : List (String × α)) :
    (insertEntry name a entries).lookup name = some a := by
  induction entries with
  | nil => simp [insertEntry]
  | cons entry later ih =>
    simp only [insertEntry]
    split
    · simp
    · split
      · simp
      · rename_i hne
        rw [List.lookup_cons]
        have : (name == entry.1) = false := by simpa using hne
        simp [this, ih]

/-- The other entries are found as before. -/
theorem lookup_insertEntry_of_ne {name other : String} (h : other ≠ name) (a : α)
    (entries : List (String × α)) :
    (insertEntry name a entries).lookup other = entries.lookup other := by
  have hne : (other == name) = false := by simpa using h
  induction entries with
  | nil => simp [insertEntry, List.lookup_cons, hne]
  | cons entry later ih =>
    simp only [insertEntry]
    split
    · rw [List.lookup_cons]
      simp [hne]
    · split
      · rename_i he
        have : (other == entry.1) = false := by simpa [← he] using h
        rw [List.lookup_cons, List.lookup_cons]
        simp [hne, this]
      · rw [List.lookup_cons, List.lookup_cons, ih]

/-- An entry whose name is above all others goes to the end. -/
theorem insertEntry_append {name : String} {a : α} {entries : List (String × α)}
    (h : ∀ other ∈ entries.map Prod.fst, other < name) :
    insertEntry name a entries = entries ++ [(name, a)] := by
  induction entries with
  | nil => rfl
  | cons entry later ih =>
    have hlt : entry.1 < name := h entry.1 (by simp)
    have h1 : ¬ name < entry.1 := fun hgt => String.lt_irrefl _ (String.lt_trans hlt hgt)
    have h2 : ¬ name = entry.1 := fun he => String.lt_irrefl entry.1 (he ▸ hlt)
    simp only [insertEntry, h1, h2, if_false]
    rw [ih fun other hother => h other (List.mem_cons_of_mem _ hother)]
    rfl

end TreeTemplate
