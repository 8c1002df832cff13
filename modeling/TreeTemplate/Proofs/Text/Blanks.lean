import Mathlib.Data.List.TakeWhile
import Mathlib.Tactic.Lemma
import TreeTemplate.Text.Blank
import TreeTemplate.Text.Pieces

/-!
# Blanks around texts

A text that is not blank has a core without blanks at its ends, and blanks around it. Trimming finds
the core.

Main statements:

* `Text.Padded.trim_chars` — the core of a text is found by trimming;
* `Text.exists_padded` — every text that is not blank has a core.
-/

namespace TreeTemplate.Text

/-- A text has a character, and neither its first one nor its last one is a blank. -/
structure Trimmed (s : List Char) : Prop where
  head : ∃ c ∈ s.head?, isBlank c = false
  last : ∃ c ∈ s.getLast?, isBlank c = false

/-- A text with blanks around it. -/
structure Padded where
  before : List Char
  core : List Char
  after : List Char
  blank_before : allBlank before = true
  trimmed : Trimmed core
  blank_after : allBlank after = true

/-- The characters of a text and of the blanks around it. -/
def Padded.chars (p : Padded) : List Char :=
  p.before ++ (p.core ++ p.after)

variable {s t : List Char}

/-- A text is blank if each of its characters is. -/
lemma allBlank_iff : allBlank s = true ↔ ∀ c ∈ s, isBlank c = true :=
  List.all_eq_true

/-- A character that is no blank is not in a blank text. -/
lemma notMem_of_allBlank (h : allBlank s = true) {c : Char} (hc : isBlank c = false) : c ∉ s := by
  intro hmem
  rw [allBlank_iff.1 h c hmem] at hc
  cases hc

/-- A trimmed text is not empty. -/
lemma Trimmed.ne_nil (h : Trimmed s) : s ≠ [] := by
  rintro rfl
  obtain ⟨c, hc, -⟩ := h.head
  cases hc

/-- What stands behind a text does not change how it begins. -/
lemma Trimmed.head_append (h : Trimmed s) (t : List Char) :
    ∃ c ∈ (s ++ t).head?, isBlank c = false := by
  obtain ⟨c, hc, hblank⟩ := h.head
  exact ⟨c, by rw [List.head?_append, hc, Option.some_or]; rfl, hblank⟩

/-- Blanks before a text are dropped up to its first character that is none. -/
lemma trimStart_append (hs : allBlank s = true) (ht : ∃ c ∈ t.head?, isBlank c = false) :
    trimStart (s ++ t) = t := by
  obtain ⟨c, hc, hblank⟩ := ht
  obtain ⟨later, rfl⟩ : ∃ later, t = c :: later := by
    cases t with
    | nil => cases hc
    | cons d later => exact ⟨later, by rw [Option.some.inj hc]⟩
  rw [trimStart, List.dropWhile_append_of_pos (allBlank_iff.1 hs), List.dropWhile_cons_of_neg]
  simp [hblank]

/-- Blanks behind a text that does not end with one are trimmed. -/
lemma trimEnd_append (hs : ∃ c ∈ s.getLast?, isBlank c = false) (ht : allBlank t = true) :
    trimEnd (s ++ t) = s := by
  have hrev : allBlank t.reverse = true := by simpa [allBlank] using ht
  have hhead : ∃ c ∈ s.reverse.head?, isBlank c = false := by simpa using hs
  have hdrop := trimStart_append hrev hhead
  rw [trimStart] at hdrop
  rw [trimEnd, List.reverse_append, hdrop, List.reverse_reverse]

namespace Padded

variable (p : Padded)

/-- Trimming finds the core of a text. -/
theorem trim_chars : trim p.chars = p.core := by
  rw [trim, chars, trimStart_append p.blank_before (p.trimmed.head_append p.after),
    trimEnd_append p.trimmed.last p.blank_after]

/-- A text with blanks around it is not blank. -/
lemma allBlank_chars : allBlank p.chars = false := by
  obtain ⟨c, hc, hblank⟩ := p.trimmed.head
  rw [allBlank, List.all_eq_false]
  exact ⟨c, by simp [chars, List.mem_of_head? hc], by simp [hblank]⟩

/-- What is no blank stands in a text just when it stands in the core. -/
lemma mem_chars {c : Char} (hc : isBlank c = false) : c ∈ p.chars ↔ c ∈ p.core := by
  simp [chars, notMem_of_allBlank p.blank_before hc, notMem_of_allBlank p.blank_after hc]

end Padded

/-- Behind its first blanks a text that is not blank begins with something else. -/
lemma exists_trimStart (h : allBlank s = false) :
    ∃ before, allBlank before = true ∧ s = before ++ trimStart s ∧
      ∃ c ∈ (trimStart s).head?, isBlank c = false := by
  refine ⟨s.takeWhile isBlank, allBlank_iff.2 fun c hc => List.mem_takeWhile_imp hc,
    List.takeWhile_append_dropWhile.symm, ?_⟩
  cases hrest : trimStart s with
  | nil =>
    have hall : allBlank s = true := allBlank_iff.2 (List.dropWhile_eq_nil_iff.1 hrest)
    rw [h] at hall
    cases hall
  | cons c later =>
    have hc := List.head?_dropWhile_not isBlank s
    rw [← trimStart, hrest] at hc
    exact ⟨c, rfl, by simpa using hc⟩

/-- Every text that is not blank has a core. -/
theorem exists_padded (h : allBlank s = false) : ∃ p : Padded, s = p.chars := by
  obtain ⟨before, hbefore, hs, c, hc, hblank⟩ := exists_trimStart h
  have hmem : c ∈ (trimStart s).reverse := by simp [List.mem_of_head? hc]
  have hrest : allBlank (trimStart s).reverse = false :=
    List.all_eq_false.2 ⟨c, hmem, by simp [hblank]⟩
  -- read backwards, the rest of the text begins with the blanks behind the core
  obtain ⟨after, hafter, hreverse, d, hd, hlast⟩ := exists_trimStart hrest
  generalize trimStart (trimStart s).reverse = core at hreverse hd
  have hcore : trimStart s = core.reverse ++ after.reverse := by
    rw [← List.reverse_append, ← hreverse, List.reverse_reverse]
  have hhead : core.reverse.head? = some c := by
    rw [hcore] at hc
    cases hrev : core.reverse with
    | nil =>
      rw [List.reverse_eq_nil_iff.1 hrev] at hd
      cases hd
    | cons first later => simpa [hrev] using hc
  exact ⟨{
    before := before
    core := core.reverse
    after := after.reverse
    blank_before := hbefore
    trimmed := ⟨⟨c, hhead, hblank⟩, d, by simpa using hd, hlast⟩
    blank_after := by simpa [allBlank] using hafter }, by rw [Padded.chars, ← hcore, ← hs]⟩

/-- Nothing is left of a text just when it is blank. -/
lemma isEmpty_trim (s : List Char) : (trim s).isEmpty = allBlank s := by
  cases h : allBlank s with
  | true =>
    have hstart : trimStart s = [] := List.dropWhile_eq_nil_iff.2 (allBlank_iff.1 h)
    rw [trim, hstart]
    rfl
  | false =>
    obtain ⟨p, rfl⟩ := exists_padded h
    rw [p.trim_chars]
    simpa using p.trimmed.ne_nil

end TreeTemplate.Text
