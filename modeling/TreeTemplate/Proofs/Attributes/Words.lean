import Mathlib.Tactic.Lemma
import TreeTemplate.Tree

/-!
# Classes as words

The value of a `class` attribute is a text whose words are the classes. Words that are joined by
blanks are the words of the text that they make.

Main statements:

* `words_intercalate` — joined words are found again;
* `classesOf_join` — so are classes.
-/

namespace TreeTemplate.Text

/-- Characters that are no blanks in front belong to the first word. -/
lemma wordRuns_word (w : List Char) (hw : ∀ c ∈ w, isBlank c = false) (s : List Char) :
    wordRuns (w ++ s) = (w ++ (wordRuns s).1, (wordRuns s).2) := by
  induction w with
  | nil => rfl
  | cons c w ih =>
    have hc := hw c List.mem_cons_self
    have hrest := ih fun d hd => hw d (List.mem_cons_of_mem _ hd)
    simp [wordRuns, hrest, hc]

/-- There is no blank in a word. -/
lemma wordRuns_no_blank (s : List Char) : (∀ c ∈ (wordRuns s).1, isBlank c = false) ∧
    ∀ w ∈ (wordRuns s).2, ∀ c ∈ w, isBlank c = false := by
  induction s with
  | nil => simp [wordRuns]
  | cons d s ih =>
    obtain ⟨hfirst, hlater⟩ := ih
    simp only [wordRuns]
    split
    · refine ⟨by simp, fun w hw => ?_⟩
      dsimp only at hw
      split at hw
      · exact hlater w hw
      · rcases List.mem_cons.1 hw with rfl | hw
        · exact hfirst
        · exact hlater w hw
    · rename_i hd
      refine ⟨fun c hc => ?_, hlater⟩
      rcases List.mem_cons.1 hc with rfl | hc
      · simpa using hd
      · exact hfirst c hc

/-- No word of a text holds a blank. -/
lemma words_no_blank {s w : List Char} (h : w ∈ words s) : ∀ c ∈ w, isBlank c = false := by
  obtain ⟨hfirst, hlater⟩ := wordRuns_no_blank s
  simp only [words] at h
  split at h
  · exact hlater w h
  · rcases List.mem_cons.1 h with rfl | h
    · exact hfirst
    · exact hlater w h

/-- Words that are joined by blanks are found again. -/
lemma words_intercalate {ws : List (List Char)}
    (h : ∀ w ∈ ws, w ≠ [] ∧ ∀ c ∈ w, isBlank c = false) : words ([' '].intercalate ws) = ws := by
  have hruns : ∀ (w : List Char) (ws : List (List Char)),
      (∀ v ∈ w :: ws, v ≠ [] ∧ ∀ c ∈ v, isBlank c = false) →
      wordRuns ([' '].intercalate (w :: ws)) = (w, ws) := by
    intro w ws
    induction ws generalizing w with
    | nil =>
      intro h
      have hw := wordRuns_word w (h w List.mem_cons_self).2 []
      simpa [wordRuns] using hw
    | cons v ws ih =>
      intro h
      have hv := ih v fun u hu => h u (List.mem_cons_of_mem _ hu)
      have hblank : isBlank ' ' = true := by decide
      have hne : v.isEmpty = false := by
        simpa using (h v (by simp)).1
      rw [List.intercalate_cons_cons, List.append_assoc,
        wordRuns_word w (h w List.mem_cons_self).2]
      simp [wordRuns, hv, hblank, hne]
  cases ws with
  | nil => rfl
  | cons w ws =>
    have hne : w.isEmpty = false := by
      simpa using (h w List.mem_cons_self).1
    simp [words, hruns w ws h, hne]

end TreeTemplate.Text

namespace TreeTemplate

/-- Whether a name can stand among the classes of an element: it is not empty and holds no blank. -/
def IsClass (name : String) : Prop :=
  name ≠ "" ∧ ∀ c ∈ name.toList, Text.isBlank c = false

/-- The classes in the value of an attribute. -/
def classesOf (value : String) : List String :=
  (Text.words value.toList).map String.ofList

/-- The value of an attribute with the given classes. -/
def joinClasses (names : List String) : String :=
  " ".intercalate names

/-- The classes of a text are classes. -/
lemma isClass_of_mem {value name : String} (h : name ∈ classesOf value) : IsClass name := by
  obtain ⟨w, hw, rfl⟩ := List.mem_map.1 h
  refine ⟨fun e => Text.words_ne_nil hw ?_, by simpa using Text.words_no_blank hw⟩
  simpa using congrArg String.toList e

/-- Classes that are joined are found again. -/
lemma classesOf_join {names : List String} (h : ∀ name ∈ names, IsClass name) :
    classesOf (joinClasses names) = names := by
  have hwords : ∀ w ∈ names.map String.toList, w ≠ [] ∧ ∀ c ∈ w, Text.isBlank c = false := by
    intro w hw
    obtain ⟨name, hname, rfl⟩ := List.mem_map.1 hw
    refine ⟨fun e => (h name hname).1 ?_, (h name hname).2⟩
    rw [← String.ofList_toList (s := name), e]
  have hblank : (" " : String).toList = [' '] := rfl
  rw [classesOf, joinClasses, String.toList_intercalate, hblank, Text.words_intercalate hwords,
    List.map_map]
  refine (List.map_congr_left fun name _ => ?_).trans (List.map_id _)
  exact String.ofList_toList

/-- Classes that are joined are an empty text only if there are none. -/
lemma joinClasses_eq_empty {names : List String} (h : ∀ name ∈ names, IsClass name) :
    joinClasses names = "" ↔ names = [] := by
  constructor
  · intro e
    rw [← classesOf_join h, e]
    rfl
  · rintro rfl
    rfl

end TreeTemplate
