import Mathlib.Data.List.Induction
import Mathlib.Tactic.Lemma
import TreeTemplate.Numbering

/-!
# Labels

What a numbering format looks like, told without its reader, and what becomes of it: its text stays
where it is, and each placeholder gives way to a position. Of the positions the innermost belongs to
the last placeholder, and the others follow from right to left.

Main statements:

* `Numbering.exists_parseFrom_iff` — a text is read just when a code follows each percent sign;
* `Numbering.parse_eq_ok` — the parts that are read are those of its layout;
* `numbering_labels` — which formats are read, and the label that they give.
-/

namespace TreeTemplate

namespace NumberStyle

/-- The code of a style. -/
def code : NumberStyle → Char
  | arabic => 'n'
  | lowerLetter => 's'
  | upperLetter => 'S'
  | lowerRoman => 'i'
  | upperRoman => 'I'

variable {c : Char} {style : NumberStyle}

/-- A character is the code of a style if it is the one with which the style is written. -/
lemma ofCode?_eq_some : ofCode? c = some style ↔ c = style.code := by
  constructor
  · intro h
    unfold ofCode? at h
    split at h <;> cases h <;> rfl
  · rintro rfl
    cases style <;> rfl

/-- The codes that are listed are those of the styles. -/
lemma mem_codes : c ∈ ['n', 's', 'S', 'i', 'I'] ↔ ∃ style : NumberStyle, c = style.code := by
  constructor
  · intro h
    simp only [List.mem_cons, List.not_mem_nil, or_false] at h
    rcases h with rfl | rfl | rfl | rfl | rfl
    exacts [⟨arabic, rfl⟩, ⟨lowerLetter, rfl⟩, ⟨upperLetter, rfl⟩, ⟨lowerRoman, rfl⟩,
      ⟨upperRoman, rfl⟩]
  · rintro ⟨style, rfl⟩
    cases style <;> decide

/-- A percent sign is no code. -/
lemma code_ne_percent (style : NumberStyle) : style.code ≠ '%' := by
  cases style <;> decide

end NumberStyle

namespace Numbering

variable {format : String} {start : Nat} {s text : List Char} {c : Char}

/-! ### Formats that are read -/

/-- The character behind each percent sign of a text is a code. -/
def Coded (s : List Char) : Prop :=
  ∀ before after, s = before ++ '%' :: after →
    ∃ code ∈ after.head?, code ∈ ['n', 's', 'S', 'i', 'I']

/-- There is no percent sign in nothing. -/
lemma coded_nil : Coded [] := by
  intro before after h
  cases before <;> cases h

/-- A character that is no percent sign needs no code behind it. -/
lemma coded_cons (hc : c ≠ '%') : Coded (c :: s) ↔ Coded s := by
  constructor
  · rintro h before after rfl
    exact h (c :: before) after rfl
  · intro h before after hs
    cases before with
    | nil => exact absurd (List.cons.inj hs).1 hc
    | cons d before => exact h before after (List.cons.inj hs).2

/-- Behind a percent sign stands the code of a style. -/
lemma coded_percent : Coded ('%' :: s) ↔
    (∃ style : NumberStyle, s.head? = some style.code) ∧ Coded s := by
  constructor
  · intro h
    obtain ⟨code, hhead, hcode⟩ := h [] s rfl
    obtain ⟨style, rfl⟩ := NumberStyle.mem_codes.1 hcode
    refine ⟨⟨style, hhead⟩, ?_⟩
    rintro before after rfl
    exact h ('%' :: before) after rfl
  · rintro ⟨⟨style, hhead⟩, h⟩ before after hs
    cases before with
    | nil =>
      obtain rfl := (List.cons.inj hs).2
      exact ⟨style.code, hhead, NumberStyle.mem_codes.2 ⟨style, rfl⟩⟩
    | cons d before => exact h before after (List.cons.inj hs).2

/-- A percent sign with a code is read as a placeholder. -/
lemma parseFrom_placeholder (style : NumberStyle) (s : List Char) :
    parseFrom format start ('%' :: style.code :: s) =
      (do return .placeholder style :: (← parseFrom format (start + 2) s)) := by
  rw [parseFrom, NumberStyle.ofCode?_eq_some.2 rfl]

/-- A character that is no percent sign is read as itself. -/
lemma parseFrom_literal (hc : c ≠ '%') (s : List Char) : parseFrom format start (c :: s) =
    (do return .literal c :: (← parseFrom format (start + c.utf8Size) s)) := by
  rw [parseFrom]
  · rintro rfl
    exact absurd rfl hc
  · rintro code later rfl
    exact absurd rfl hc

/-- A text is read just when a code follows each percent sign. -/
lemma exists_parseFrom_iff : (∃ parts, parseFrom format start s = .ok parts) ↔ Coded s := by
  fun_induction parseFrom format start s with
  | case1 => exact iff_of_true ⟨[], rfl⟩ coded_nil
  | case2 => simp [coded_percent]
  | case3 start code s h =>
    refine iff_of_false (by simp) fun hcoded => ?_
    obtain ⟨style, hcode⟩ := (coded_percent.1 hcoded).1
    rw [NumberStyle.ofCode?_eq_some.2 (Option.some.inj hcode)] at h
    cases h
  | case4 start code s style h ih =>
    obtain rfl := NumberStyle.ofCode?_eq_some.1 h
    have hrest : Coded ('%' :: style.code :: s) ↔ Coded s := by
      rw [coded_percent, coded_cons style.code_ne_percent]
      exact and_iff_right ⟨style, rfl⟩
    rw [hrest, ← ih]
    cases parseFrom format (start + 2) s <;> simp [bind, Except.bind, pure, Except.pure]
  | case5 start c s _ hcode ih =>
    have hc : c ≠ '%' := by
      rintro rfl
      cases s with
      | nil => simp_all
      | cons code later => exact hcode code later rfl rfl
    rw [coded_cons hc, ← ih]
    cases parseFrom format (start + c.utf8Size) s <;> simp [bind, Except.bind, pure, Except.pure]

/-! ### The layout of a format -/

/-- The layout of a format: text, and placeholders with text behind each. -/
structure Layout where
  head : List Char
  fields : List (NumberStyle × List Char)
  head_plain : '%' ∉ head
  fields_plain : ∀ field ∈ fields, '%' ∉ field.2

/-- The characters of placeholders with text behind each. -/
def fieldChars (fields : List (NumberStyle × List Char)) : List Char :=
  fields.flatMap fun field => '%' :: field.1.code :: field.2

/-- The parts of placeholders with text behind each. -/
def fieldParts (fields : List (NumberStyle × List Char)) : Numbering :=
  fields.flatMap fun field => .placeholder field.1 :: field.2.map .literal

/-- Placeholders that have given way to values, with the text behind each. -/
def fieldLabels (fields : List (NumberStyle × List Char)) (values : List Nat) : List Char :=
  (fields.zipWith (fun field value => field.1.label value ++ field.2) values).flatten

section

variable (field : NumberStyle × List Char) (fields : List (NumberStyle × List Char))

/-- The first of several fields is written in front of the others. -/
lemma fieldChars_cons :
    fieldChars (field :: fields) = '%' :: field.1.code :: (field.2 ++ fieldChars fields) :=
  rfl

/-- The first of several fields is read in front of the others. -/
lemma fieldParts_cons : fieldParts (field :: fields) =
    .placeholder field.1 :: (field.2.map .literal ++ fieldParts fields) :=
  rfl

/-- The first of several fields is filled with the first of the values. -/
lemma fieldLabels_cons (value : Nat) (values : List Nat) :
    fieldLabels (field :: fields) (value :: values) =
      field.1.label value ++ (field.2 ++ fieldLabels fields values) := by
  simp [fieldLabels]

end

namespace Layout

/-- The characters of a format. -/
def chars (l : Layout) : List Char :=
  l.head ++ fieldChars l.fields

/-- The parts of a format. -/
def parts (l : Layout) : Numbering :=
  l.head.map .literal ++ fieldParts l.fields

/-- A format whose placeholders have given way to values, the first placeholder to the first
value. -/
def filled (l : Layout) (values : List Nat) : List Char :=
  l.head ++ fieldLabels l.fields values

end Layout

/-- Text without a percent sign in front is read as itself. -/
lemma parseFrom_append (htext : '%' ∉ text) (s : List Char) :
    parseFrom format start (text ++ s) =
      (do return text.map .literal ++ (← parseFrom format (start + Text.bytes text) s)) := by
  induction text generalizing start with
  | nil => cases h : parseFrom format start s <;> simp [h, bind, Except.bind, pure, Except.pure]
  | cons c text ih =>
    obtain ⟨hc, hlater⟩ : c ≠ '%' ∧ '%' ∉ text := by
      simpa [eq_comm] using htext
    rw [List.cons_append, parseFrom_literal hc, ih hlater, Text.bytes_cons, ← Nat.add_assoc]
    cases parseFrom format (start + c.utf8Size + Text.bytes text) s <;> rfl

/-- Fields are read as they are written if there is no percent sign in the texts behind them. -/
lemma parseFrom_fields {fields : List (NumberStyle × List Char)}
    (h : ∀ field ∈ fields, '%' ∉ field.2) :
    parseFrom format start (fieldChars fields) = .ok (fieldParts fields) := by
  induction fields generalizing start with
  | nil => rfl
  | cons field fields ih =>
    have hlater : ∀ start, parseFrom format start (fieldChars fields) = .ok (fieldParts fields) :=
      fun start => ih fun other hother => h other (List.mem_cons_of_mem _ hother)
    rw [fieldChars_cons, fieldParts_cons, parseFrom_placeholder,
      parseFrom_append (h field List.mem_cons_self), hlater]
    rfl

/-- A format that is laid out is read. -/
lemma parseFrom_chars (l : Layout) : parseFrom format start l.chars = .ok l.parts := by
  rw [Layout.chars, parseFrom_append l.head_plain, parseFrom_fields l.fields_plain]
  rfl

/-- A text in which a code follows each percent sign is laid out. -/
lemma exists_layout (h : Coded s) : ∃ l : Layout, s = l.chars := by
  -- a placeholder takes two characters, everything else takes one
  induction s using List.twoStepInduction with
  | nil => exact ⟨⟨[], [], by simp, by simp⟩, rfl⟩
  | singleton c =>
    have hc : '%' ≠ c := by
      rintro rfl
      obtain ⟨style, hcode⟩ := (coded_percent.1 h).1
      cases hcode
    exact ⟨⟨[c], [], by simpa using hc, by simp⟩, rfl⟩
  | cons_cons c d s ih ih' =>
    by_cases hc : c = '%'
    · subst hc
      obtain ⟨⟨style, hcode⟩, hd⟩ := coded_percent.1 h
      obtain rfl : d = style.code := Option.some.inj hcode
      obtain ⟨l, rfl⟩ := ih ((coded_cons style.code_ne_percent).1 hd)
      exact ⟨⟨[], (style, l.head) :: l.fields, by simp,
        List.forall_mem_cons.2 ⟨l.head_plain, l.fields_plain⟩⟩, rfl⟩
    · obtain ⟨l, hl⟩ := ih' d ((coded_cons hc).1 h)
      exact ⟨⟨c :: l.head, l.fields, by simp [l.head_plain, Ne.symm hc], l.fields_plain⟩, by
        rw [hl]; rfl⟩

/-- The parts of a format that is read are those of its layout. -/
theorem parse_eq_ok {parts : Numbering} : parse format = .ok parts ↔
    ∃ l : Layout, format.toList = l.chars ∧ parts = l.parts := by
  constructor
  · intro h
    obtain ⟨l, hl⟩ := exists_layout (exists_parseFrom_iff.1 ⟨parts, h⟩)
    rw [parse, hl, parseFrom_chars] at h
    cases h
    exact ⟨l, hl, rfl⟩
  · rintro ⟨l, hl, rfl⟩
    rw [parse, hl, parseFrom_chars]

/-! ### Labels -/

variable {positions : List Nat} {fields : List (NumberStyle × List Char)}

/-- Text in front adds no placeholder. -/
lemma placeholders_append (text : List Char) (parts : Numbering) :
    placeholders (text.map .literal ++ parts) = placeholders parts := by
  induction text with
  | nil => rfl
  | cons c text ih => simpa [placeholders] using ih

/-- Text in front stands in front of the label. -/
lemma fill_append (text : List Char) (parts : Numbering) :
    fill positions (text.map .literal ++ parts) = text ++ fill positions parts := by
  induction text with
  | nil => rfl
  | cons c text ih => simpa [fill] using ih

/-- There are as many placeholders as fields. -/
lemma placeholders_fieldParts (fields : List (NumberStyle × List Char)) :
    placeholders (fieldParts fields) = fields.length := by
  induction fields with
  | nil => rfl
  | cons field fields ih => simp [fieldParts_cons, placeholders, placeholders_append, ih]

/-- Of the innermost positions the outermost one comes first when they are turned round. -/
lemma reverse_take_succ {n : Nat} (h : n < positions.length) :
    (positions.take (n + 1)).reverse = positions[n] :: (positions.take n).reverse := by
  rw [List.take_add_one, List.getElem?_eq_getElem h]
  simp

/-- Placeholders give way to the positions from the innermost one outwards, read backwards. -/
lemma fill_fieldParts (h : fields.length ≤ positions.length) :
    fill positions (fieldParts fields) =
      fieldLabels fields (positions.take fields.length).reverse := by
  induction fields with
  | nil => simp [fieldParts, fieldLabels, fill]
  | cons field fields ih =>
    have hlt : fields.length < positions.length := h
    rw [fieldParts_cons, fill, placeholders_append, placeholders_fieldParts, fill_append,
      ih (Nat.le_of_lt hlt), List.length_cons, reverse_take_succ hlt, fieldLabels_cons,
      List.getD_eq_getElem?_getD, List.getElem?_eq_getElem hlt]
    rfl

/-- A layout has as many placeholders as fields. -/
lemma placeholders_layout (l : Layout) : placeholders l.parts = l.fields.length := by
  rw [Layout.parts, placeholders_append, placeholders_fieldParts]

/-- The placeholders of a layout get the innermost positions, the outermost of these first. -/
lemma fill_layout (l : Layout) (h : l.fields.length ≤ positions.length) :
    fill positions l.parts = l.filled (positions.take l.fields.length).reverse := by
  rw [Layout.parts, fill_append, fill_fieldParts h, Layout.filled]

/-- A format that is filled in by counting the placeholders down, each of which takes the position
with as many before it as are left behind it. There is no text when no placeholder is left to count,
or when there is no such position. -/
def countdown (positions : List Nat) : Numbering → Nat → Option (List Char)
  | [], _ => some []
  | .literal c :: parts, left => return c :: (← countdown positions parts left)
  | .placeholder _ :: _, 0 => none
  | .placeholder style :: parts, left + 1 => do
    let n ← positions[left]?
    return style.label n ++ (← countdown positions parts left)

/-- Counting down reaches each placeholder with as many left as follow it. -/
lemma countdown_eq_some {parts : Numbering} (h : placeholders parts ≤ positions.length) :
    countdown positions parts (placeholders parts) = some (fill positions parts) := by
  induction parts with
  | nil => rfl
  | cons part parts ih =>
    cases part with
    | literal c => simp [placeholders, countdown, fill, ih h]
    | placeholder style =>
      have hlt : placeholders parts < positions.length := h
      rw [placeholders, countdown, ih (Nat.le_of_lt hlt), fill, List.getElem?_eq_getElem hlt,
        List.getD_eq_getElem?_getD, List.getElem?_eq_getElem hlt]
      rfl

/-- A label is refused just when there is no position, or not one for each placeholder. -/
lemma label_eq_error (parts : Numbering) :
    (∃ cause, label positions parts = .error cause ∧ cause.faultClass = .other) ↔
      positions = [] ∨ positions.length < placeholders parts := by
  unfold label
  split
  · simp_all [Cause.faultClass]
  · split <;> simp_all [Cause.faultClass]

/-- Where there are positions enough, a format makes a label. -/
lemma label_eq_ok {parts : Numbering} (hpositions : positions ≠ [])
    (h : placeholders parts ≤ positions.length) :
    label positions parts = .ok (String.ofList (fill positions parts)) := by
  simp [label, hpositions, Nat.not_lt.2 h]

end Numbering

open TreeTemplate.Numbering in
/-- A format is read just when a code follows each of its percent signs. The format that is read
gives no label where there is no position, or not one for each placeholder. Otherwise its text stays
in place, and the `j`-th of `k` placeholders gives way to the position with `k - j` positions inside
of it. Counting the placeholders down comes to the same label: the count does not fall below zero,
and there is a position each time. -/
theorem numbering_labels (format : String) :
    ((∃ parts, Numbering.parse format = .ok parts) ↔
      Coded format.toList) ∧
    ∀ parts, Numbering.parse format = .ok parts →
      ∃ l : Layout, format.toList = l.chars ∧ ∀ positions,
        ((∃ cause, parts.label positions = .error cause ∧ cause.faultClass = .other) ↔
          positions = [] ∨ positions.length < l.fields.length) ∧
        (positions ≠ [] → l.fields.length ≤ positions.length →
          ∃ values : List Nat, values.length = l.fields.length ∧
            (∀ j, 1 ≤ j → j ≤ values.length →
              ∃ n, values[j - 1]? = some n ∧ positions[values.length - j]? = some n) ∧
            parts.label positions = .ok (String.ofList (l.filled values)) ∧
            parts.countdown positions parts.placeholders = some (l.filled values)) := by
  refine ⟨exists_parseFrom_iff, fun parts h => ?_⟩
  obtain ⟨l, hl, rfl⟩ := parse_eq_ok.1 h
  refine ⟨l, hl, fun positions => ⟨?_, fun hne hle => ?_⟩⟩
  · rw [label_eq_error, placeholders_layout]
  · have hroom : l.parts.placeholders ≤ positions.length := placeholders_layout l ▸ hle
    have htake : (positions.take l.fields.length).length = l.fields.length :=
      List.length_take_of_le hle
    have hlength : (positions.take l.fields.length).reverse.length = l.fields.length := by
      rw [List.length_reverse, htake]
    refine ⟨(positions.take l.fields.length).reverse, hlength, fun j hj hjle => ?_, ?_, ?_⟩
    · rw [hlength] at hjle ⊢
      have hlt : l.fields.length - j < positions.length := by omega
      have hplace : l.fields.length - 1 - (j - 1) = l.fields.length - j := by omega
      refine ⟨positions[l.fields.length - j], ?_, List.getElem?_eq_getElem hlt⟩
      rw [List.getElem?_reverse (by omega), htake, hplace, List.getElem?_take_of_lt (by omega),
        List.getElem?_eq_getElem hlt]
    · rw [label_eq_ok hne hroom, fill_layout l hle]
    · rw [countdown_eq_some hroom, fill_layout l hle]

/-- Two placeholders and three positions, with text of several bytes between them. -/
theorem numbering_labels_nested : ∃ parts, Numbering.parse "§%S·%i·" = .ok parts ∧
    parts.label [14, 4, 3] = .ok "§D·xiv·" ∧
    parts.countdown [14, 4, 3] 2 = some "§D·xiv·".toList := by
  have hparse : Numbering.parse "§%S·%i·" = .ok [.literal '§', .placeholder .upperLetter,
    .literal '·', .placeholder .lowerRoman, .literal '·'] := rfl
  obtain ⟨l, -, hlabels⟩ := (numbering_labels "§%S·%i·").2 _ hparse
  obtain ⟨hrefused, hgiven⟩ := hlabels [14, 4, 3]
  refine ⟨_, hparse, rfl, ?_⟩
  have hle : l.fields.length ≤ 3 := by
    by_contra hlt
    obtain ⟨cause, hcause, -⟩ := hrefused.2 (.inr (Nat.not_le.1 hlt))
    cases hcause
  obtain ⟨values, -, -, hlabel, hcount⟩ := hgiven (by decide) hle
  have htext : String.ofList (l.filled values) = "§D·xiv·" := (Except.ok.inj hlabel).symm
  rw [← htext, String.toList_ofList]
  exact hcount

end TreeTemplate
