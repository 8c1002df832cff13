import TreeTemplate.Markup.Lexeme
import TreeTemplate.Markup.Parser
import TreeTemplate.Markup.Writer
import Mathlib.Tactic.Lemma

/-!
# Tags, written and read

A tag that is written is read back, where its names are plain: no character of them could be taken
for anything but a part of a name. The values of attributes may be any strings.

Main statements:

* `readAttributes_attrsMarkup` — attributes are read back;
* `Lexeme.read_startTag`, `Lexeme.read_closedTag`, `Lexeme.read_endTag` — tags are read as a whole;
* `Lexeme.event_written` — an element begins where its tag is written.
-/

namespace TreeTemplate.Markup

/-- Whether a character is never taken for anything but a part of a name. -/
def isPlain (c : Char) : Bool :=
  !isSpace c && !(['=', '"', '\'', '>', '/', '!', '?'].contains c)

/-- A name of plain characters. -/
structure Plain (name : String) : Prop where
  ne_nil : name.toList ≠ []
  isPlain : ∀ c ∈ name.toList, isPlain c = true

section Characters

variable {c : Char}

/-- A plain character is no space. -/
lemma isSpace_of_isPlain (h : isPlain c = true) : isSpace c = false := by
  simp only [isPlain, Bool.and_eq_true, Bool.not_eq_true'] at h
  exact h.1

/-- A plain character is none that is not plain. -/
lemma ne_of_isPlain (h : isPlain c = true) {d : Char} (hd : isPlain d = false) : c ≠ d := by
  rintro rfl
  rw [h] at hd
  cases hd

/-- A plain character goes on with a name. -/
lemma continuesName_of_isPlain (h : isPlain c = true) : continuesName c = true := by
  have hne := ne_of_isPlain h (d := '=') rfl
  simp [continuesName, isSpace_of_isPlain h, hne]

/-- The value of an attribute is written without quotation marks. -/
lemma escapeValue_clean {s : List Char} (h : c ∈ escapeValue s) : c ≠ '"' := by
  have clean {written : List Char} (hw : written.all fun d => d ≠ '"') (hd : c ∈ written) :
      c ≠ '"' := by
    simpa using List.all_eq_true.1 hw c hd
  obtain ⟨d, -, hc⟩ := List.mem_flatMap.1 h
  by_cases h1 : d = '\''
  · subst h1
    exact clean (by decide) hc
  by_cases h2 : d = '"'
  · subst h2
    exact clean (by decide) hc
  have hvalue : escapeValueChar d = escapeChar d := by unfold escapeValueChar; split <;> simp_all
  rw [hvalue] at hc
  by_cases h3 : d = '<'
  · subst h3
    exact clean (by decide) hc
  by_cases h4 : d = '>'
  · subst h4
    exact clean (by decide) hc
  by_cases h5 : d = '&'
  · subst h5
    exact clean (by decide) hc
  · have hsame : escapeChar d = [d] := by unfold escapeChar; split <;> simp_all
    rw [hsame] at hc
    rcases List.mem_singleton.1 hc with rfl
    exact h2

end Characters

/-- What stands before the first character without a property, and what begins there. -/
lemma span_until {p : Char → Bool} {x s : List Char} {c : Char} (hx : ∀ d ∈ x, p d = true)
    (hc : p c = false) : (x ++ c :: s).takeWhile p = x ∧ (x ++ c :: s).dropWhile p = c :: s := by
  constructor
  · rw [List.takeWhile_append_of_pos hx, List.takeWhile_cons_of_neg (by simp [hc]), List.append_nil]
  · rw [List.dropWhile_append_of_pos hx, List.dropWhile_cons_of_neg (by simp [hc])]

/-! ## Attributes -/

section Attributes

variable {length position : Nat} {seen : List (List Char × Nat)} {v later : List Char}
  {attrs : List (String × String)}

/-- A value that is written between quotation marks is read. -/
lemma readValue_quoted (hv : '"' ∉ v) : readValue length ('"' :: (v ++ '"' :: later)) =
    .ok (v, '"' :: (v ++ ['"'])) := by
  have hspace : isSpace '"' = false := rfl
  obtain ⟨htake, hdrop⟩ := span_until (p := fun d => decide (d ≠ '"')) (c := '"') (s := later)
    (fun d hd => decide_eq_true fun e => hv (e ▸ hd)) (decide_eq_false fun h => h rfl)
  simp only [readValue, spanSpace, List.takeWhile_cons, List.dropWhile_cons, hspace,
    Bool.false_eq_true, if_false, true_or, if_true, htake, hdrop, List.nil_append,
    List.cons_append]

/-- An attribute that is written is read. -/
lemma RawAttribute.read_written {c : Char} {cs : List Char}
    (hname : ∀ d ∈ c :: cs, isPlain d = true) (hv : '"' ∉ v)
    (hseen : seen.lookup (c :: cs) = none) :
    RawAttribute.read length position seen c (cs ++ '=' :: '"' :: (v ++ '"' :: later)) =
      .ok ⟨c :: cs, v, c :: cs ++ '=' :: '"' :: (v ++ ['"'])⟩ := by
  have hequals : isSpace '=' = false := rfl
  obtain ⟨htake, hdrop⟩ := span_until (p := continuesName) (x := cs) (c := '=')
    (s := '"' :: (v ++ '"' :: later))
    (fun d hd => continuesName_of_isPlain (hname d (List.mem_cons_of_mem _ hd))) rfl
  simp only [RawAttribute.read, spanSpace, htake, hdrop, hseen, List.takeWhile_cons,
    List.dropWhile_cons, hequals, Bool.false_eq_true, if_false, readValue_quoted hv,
    List.append_nil]

/-- The characters of an attribute that was read are passed over. -/
lemma readAttributes_skip (x s : List Char) :
    readAttributes length position x.length seen (x ++ s) =
      readAttributes length (position + Text.bytes x) 0 seen s := by
  induction x generalizing position with
  | nil => rfl
  | cons c x ih =>
    rw [List.length_cons, List.cons_append, readAttributes, ih, Text.bytes_cons, Nat.add_assoc]

/-- The first attribute is written in front of the others, behind a space and with its value
quoted. -/
lemma toList_attrsMarkup_cons (name value : String) (attrs : List (String × String)) :
    (Tree.attrsMarkup ((name, value) :: attrs)).toList = ' ' :: (name.toList ++
      '=' :: '"' :: (escapeValue value.toList ++ '"' :: (Tree.attrsMarkup attrs).toList)) := by
  simp [Tree.attrsMarkup]

/-- Attributes that are written are read back. -/
lemma readAttributes_attrsMarkup (hplain : ∀ attr ∈ attrs, Plain attr.1)
    (hnodup : (attrs.map Prod.fst).Nodup)
    (hseen : ∀ attr ∈ attrs, seen.lookup attr.1.toList = none) :
    readAttributes length position 0 seen (Tree.attrsMarkup attrs).toList = .ok attrs := by
  induction attrs generalizing position seen with
  | nil => rfl
  | cons attr attrs ih =>
    obtain ⟨name, value⟩ := attr
    obtain ⟨hname, hplain⟩ := List.forall_mem_cons.1 hplain
    obtain ⟨hfirst, hseen⟩ := List.forall_mem_cons.1 hseen
    obtain ⟨hnew, hnodup⟩ := List.nodup_cons.1 hnodup
    obtain ⟨c, cs, hcs⟩ := List.exists_cons_of_ne_nil hname.ne_nil
    have hchars := hname.isPlain
    dsimp only at hfirst hnew hcs hchars
    rw [hcs] at hfirst hchars
    have hv : '"' ∉ escapeValue value.toList := fun hmem => escapeValue_clean hmem rfl
    -- a name that stands once among the attributes was not seen when the later ones are read
    have hlater :
        ∀ attr ∈ attrs, ((c :: cs, position + ' '.utf8Size) :: seen).lookup attr.1.toList =
        none := by
      intro attr hattr
      have hne : attr.1.toList ≠ c :: cs := fun e => hnew
        (List.mem_map.2 ⟨attr, hattr, String.toList_injective (e.trans hcs.symm)⟩)
      rw [List.lookup_cons, beq_false_of_ne hne]
      exact hseen attr hattr
    have hspace : isSpace ' ' = true := rfl
    have hc := isSpace_of_isPlain (hchars c List.mem_cons_self)
    rw [toList_attrsMarkup_cons, hcs, List.cons_append]
    simp only [readAttributes, hspace, hc, if_true, Bool.false_eq_true, if_false,
      RawAttribute.read_written hchars hv hfirst, resolve_escapeValue]
    have hsplit : cs ++ '=' :: '"' :: (escapeValue value.toList ++
        '"' :: (Tree.attrsMarkup attrs).toList) = (cs ++ '=' :: '"' ::
          (escapeValue value.toList ++ ['"'])) ++ (Tree.attrsMarkup attrs).toList := by
      simp
    rw [hsplit, List.cons_append, List.length_cons, Nat.add_sub_cancel, readAttributes_skip,
      ih hplain hnodup hlater, String.ofList_toList, ← hcs, String.ofList_toList]
    rfl

end Attributes

/-! ## Tags -/

section Tags

variable {s t rest : List Char} {tag : String} {attrs : List (String × String)}

/-- A part of a tag that does not end it, and that ends every quotation that it begins. -/
def Unclosing (s : List Char) : Prop :=
  ∀ rest, tagBody? none (s ++ rest) = (tagBody? none rest).map (s ++ ·)

/-- Nothing does not end a tag. -/
lemma Unclosing.nil : Unclosing [] := fun rest => by simp

/-- Two parts one after the other do not end a tag if neither does. -/
lemma Unclosing.append (hs : Unclosing s) (ht : Unclosing t) : Unclosing (s ++ t) := fun rest => by
  rw [List.append_assoc, hs, ht, Option.map_map]
  simp [Function.comp_def]

/-- A character that is no bracket and no quote does not end a tag. -/
lemma Unclosing.of_char {c : Char} (hend : c ≠ '>') (hdouble : c ≠ '"') (hsingle : c ≠ '\'') :
    Unclosing [c] := fun rest => by
  simp [tagBody?, hend, hdouble, hsingle]

/-- Plain characters do not end a tag. -/
lemma Unclosing.of_plain (h : ∀ c ∈ s, isPlain c = true) : Unclosing s := by
  induction s with
  | nil => exact .nil
  | cons c s ih =>
    obtain ⟨hc, hs⟩ := List.forall_mem_cons.1 h
    have hchar : Unclosing [c] :=
      .of_char (ne_of_isPlain hc rfl) (ne_of_isPlain hc rfl) (ne_of_isPlain hc rfl)
    exact hchar.append (ih hs)

/-- A quotation is passed over up to its end. -/
lemma tagBody?_quoted {q : Char} (h : q ∉ s) (rest : List Char) :
    tagBody? (some q) (s ++ q :: rest) = (tagBody? none rest).map fun body => s ++ q :: body := by
  induction s with
  | nil => simp [tagBody?]
  | cons c s ih =>
    rw [List.mem_cons, not_or] at h
    simp [tagBody?, Ne.symm h.1, ih h.2, Function.comp_def]

/-- What stands in quotes does not end a tag. -/
lemma Unclosing.quoted (h : '"' ∉ s) : Unclosing ('"' :: (s ++ ['"'])) := fun rest => by
  have hend : '"' ≠ '>' := by decide
  simp [tagBody?, hend, tagBody?_quoted h, Function.comp_def]

/-- Attributes as they are written do not end a tag. -/
lemma unclosing_attrsMarkup (hplain : ∀ attr ∈ attrs, Plain attr.1) :
    Unclosing (Tree.attrsMarkup attrs).toList := by
  induction attrs with
  | nil => exact .nil
  | cons attr attrs ih =>
    obtain ⟨name, value⟩ := attr
    obtain ⟨hname, hlater⟩ := List.forall_mem_cons.1 hplain
    have hv : '"' ∉ escapeValue value.toList := fun hmem => escapeValue_clean hmem rfl
    have hblank : Unclosing [' '] := .of_char (by decide) (by decide) (by decide)
    have hequals : Unclosing ['='] := .of_char (by decide) (by decide) (by decide)
    have hall := hblank.append ((Unclosing.of_plain hname.isPlain).append
      (hequals.append ((Unclosing.quoted hv).append (ih hlater))))
    rw [toList_attrsMarkup_cons]
    simpa using hall

/-- What stands between the angle brackets of a tag that begins an element. -/
def tagChars (tag : String) (attrs : List (String × String)) : List Char :=
  tag.toList ++ (Tree.attrsMarkup attrs).toList

/-- A tag as it is written does not end before its bracket. -/
lemma unclosing_tagChars (htag : Plain tag) (hplain : ∀ attr ∈ attrs, Plain attr.1) :
    Unclosing (tagChars tag attrs) :=
  (Unclosing.of_plain htag.isPlain).append (unclosing_attrsMarkup hplain)

/-- A tag is read up to its bracket if no part of it ends it. -/
lemma Unclosing.tagBody? (h : Unclosing s) (rest : List Char) :
    tagBody? none (s ++ '>' :: rest) = some s := by
  rw [h]
  simp [Markup.tagBody?]

/-- Attributes end with a quotation mark. -/
lemma exists_toList_attrsMarkup (attr : String × String) (attrs : List (String × String)) :
    ∃ s, (Tree.attrsMarkup (attr :: attrs)).toList = s ++ ['"'] := by
  induction attrs generalizing attr with
  | nil => exact ⟨' ' :: (attr.1.toList ++ '=' :: '"' :: escapeValue attr.2.toList),
      (toList_attrsMarkup_cons ..).trans (by simp [Tree.attrsMarkup])⟩
  | cons later attrs ih =>
    obtain ⟨s, hs⟩ := ih later
    exact ⟨' ' :: (attr.1.toList ++ '=' :: '"' :: (escapeValue attr.2.toList ++ '"' :: s)),
      (toList_attrsMarkup_cons ..).trans (by simp [hs])⟩

/-- A tag does not end in a stroke before it is closed. -/
lemma getLast?_tagChars (htag : Plain tag) (attrs : List (String × String)) :
    (tagChars tag attrs).getLast? ≠ some '/' := by
  cases attrs with
  | nil =>
    intro h
    rw [tagChars, Tree.attrsMarkup, String.toList_empty, List.append_nil] at h
    exact ne_of_isPlain (htag.isPlain '/' (List.mem_of_getLast? h)) rfl rfl
  | cons attr attrs =>
    obtain ⟨s, hs⟩ := exists_toList_attrsMarkup attr attrs
    rw [tagChars, hs, ← List.append_assoc, List.getLast?_concat]
    decide

/-- A construct that begins with a plain character is a tag. -/
lemma readConstruct_tag {c : Char} {body : List Char} (hc : isPlain c = true)
    (h : Markup.tagBody? none (c :: s) = some body) : readConstruct (c :: s) =
      if body.getLast? = some '/' then .ok (.startTag body.dropLast true, body)
      else .ok (.startTag body false, body) := by
  have h₁ : c ≠ '!' := ne_of_isPlain hc rfl
  have h₂ : c ≠ '?' := ne_of_isPlain hc rfl
  have h₃ : c ≠ '/' := ne_of_isPlain hc rfl
  unfold readConstruct
  split <;> simp_all

/-- A tag as it is written begins with a plain character. -/
lemma exists_tagChars (htag : Plain tag) (attrs : List (String × String)) :
    ∃ c s, isPlain c = true ∧ tagChars tag attrs = c :: s := by
  obtain ⟨c, cs, hcs⟩ := List.exists_cons_of_ne_nil htag.ne_nil
  exact ⟨c, cs ++ (Tree.attrsMarkup attrs).toList,
    htag.isPlain c (hcs ▸ List.mem_cons_self), by rw [tagChars, hcs, List.cons_append]⟩

/-- A name in an end tag without white space. -/
lemma endTagName_eq_self (h : ∀ c ∈ s, isSpace c = false) : endTagName s = s := by
  unfold endTagName
  split
  · rfl
  · rcases e : s.reverse with _ | ⟨c, t⟩
    · rw [List.dropWhile_nil, List.reverse_nil, List.reverse_eq_nil_iff.1 e]
    · have hc : isSpace c = false := h c (List.mem_reverse.1 (e ▸ List.mem_cons_self))
      rw [List.dropWhile_cons_of_neg (by simp [hc]), ← e, List.reverse_reverse]

namespace Lexeme

/-- A tag that begins an element is read as a whole. -/
lemma read_startTag (htag : Plain tag) (hplain : ∀ attr ∈ attrs, Plain attr.1)
    (rest : List Char) : read '<' (tagChars tag attrs ++ '>' :: rest) =
      .ok (.startTag (tagChars tag attrs) false, '<' :: tagChars tag attrs ++ ['>']) := by
  have hbody := (unclosing_tagChars htag hplain).tagBody? rest
  have hlast := getLast?_tagChars htag attrs
  obtain ⟨c, s, hc, hcs⟩ := exists_tagChars htag attrs
  rw [hcs, List.cons_append] at hbody
  rw [hcs] at hlast
  rw [hcs, List.cons_append, read, if_pos rfl, readConstruct_tag hc hbody, if_neg hlast]
  rfl

/-- A tag that is closed where it begins an element is read as a whole. -/
lemma read_closedTag (htag : Plain tag) (hplain : ∀ attr ∈ attrs, Plain attr.1)
    (rest : List Char) : read '<' (tagChars tag attrs ++ '/' :: '>' :: rest) =
      .ok (.startTag (tagChars tag attrs) true, '<' :: (tagChars tag attrs ++ ['/']) ++ ['>']) := by
  have hstroke : Unclosing ['/'] := .of_char (by decide) (by decide) (by decide)
  have hbody := ((unclosing_tagChars htag hplain).append hstroke).tagBody? rest
  obtain ⟨c, s, hc, hcs⟩ := exists_tagChars htag attrs
  rw [List.append_assoc, List.singleton_append, hcs, List.cons_append] at hbody
  rw [hcs, List.cons_append, read, if_pos rfl, readConstruct_tag hc hbody,
    if_pos List.getLast?_concat, List.dropLast_concat]
  rfl

/-- A tag that ends an element is read as a whole. -/
lemma read_endTag (htag : Plain tag) (rest : List Char) :
    read '<' ('/' :: (tag.toList ++ '>' :: rest)) =
      .ok (.endTag tag.toList, '<' :: ('/' :: tag.toList) ++ ['>']) := by
  have hstroke : Unclosing ['/'] := .of_char (by decide) (by decide) (by decide)
  have hbody := (hstroke.append (.of_plain htag.isPlain)).tagBody? rest
  have hname := endTagName_eq_self fun c hc => isSpace_of_isPlain (htag.isPlain c hc)
  rw [List.singleton_append, List.cons_append] at hbody
  rw [read, if_pos rfl, readConstruct, hbody]
  simp only [List.drop_one, List.tail_cons, hname]
  rfl

/-- A text is read up to the next angle bracket. -/
lemma read_text {c : Char} (hs : ∀ d ∈ c :: s, d ≠ '<') (hrest : ∀ d ∈ rest.head?, d = '<') :
    read c (s ++ rest) = .ok (.text (c :: s), c :: s) := by
  obtain ⟨hc, hs⟩ := List.forall_mem_cons.1 hs
  have htake : (s ++ rest).takeWhile (· ≠ '<') = s := by
    rw [List.takeWhile_append_of_pos (by simpa using hs)]
    cases rest with
    | nil => simp
    | cons d rest =>
      obtain rfl := hrest d rfl
      simp
  rw [read, if_neg hc, htake]

end Lexeme

/-- An element is entered, or added where its tag is closed. -/
lemma Lexeme.event_written (innermost? : Option String) (position : Nat) (htag : Plain tag)
    (hplain : ∀ attr ∈ attrs, Plain attr.1) (hnodup : (attrs.map Prod.fst).Nodup) (closed : Bool) :
    (Lexeme.startTag (tagChars tag attrs) closed).event innermost? position =
      .ok (.start tag attrs closed) := by
  have htake : (tagChars tag attrs).takeWhile (fun c => !isSpace c) = tag.toList := by
    have hspaceless : ∀ c ∈ tag.toList, (!isSpace c) = true := fun c hc => by
      rw [isSpace_of_isPlain (htag.isPlain c hc)]
      rfl
    cases attrs with
    | nil =>
      have htake := @List.takeWhile_append_of_pos _ _ _ [] hspaceless
      rw [List.takeWhile_nil, List.append_nil] at htake
      rw [tagChars, Tree.attrsMarkup, String.toList_empty, List.append_nil]
      exact htake
    | cons attr attrs =>
      rw [tagChars, toList_attrsMarkup_cons]
      exact (span_until hspaceless rfl).1
  have hdrop : (tagChars tag attrs).drop tag.toList.length = (Tree.attrsMarkup attrs).toList :=
    List.drop_left
  have hattrs : readAttributes (Text.bytes (tagChars tag attrs)) (Text.bytes tag.toList) 0 []
      (Tree.attrsMarkup attrs).toList = .ok attrs :=
    readAttributes_attrsMarkup hplain hnodup fun _ _ => rfl
  simp only [Lexeme.event, htake, hdrop, hattrs, String.ofList_toList]
  rfl

end Tags

end TreeTemplate.Markup
