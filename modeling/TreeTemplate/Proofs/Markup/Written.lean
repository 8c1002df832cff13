import TreeTemplate.Proofs.Forest.Names
import TreeTemplate.Proofs.Markup.Tags

/-!
# Trees, written and read

A tree that is written and read back comes out in a normal form: hidden elements are gone, texts
side by side have become one, and blank texts are dropped. So it is for every tree whose names are
plain, whatever its texts and the values of its attributes are.

Reading goes from one construct to the next, so what is read of a tree is read wherever the tree is
written, with anything behind it. Only texts are different: a text goes on up to the next angle
bracket.

Main statements:

* `readsBack_of_writable` — the markup of an element is read as the element in its normal form;
* `parse_markups` — trees that are written are read back in their normal form.
-/

namespace TreeTemplate

namespace Tree

variable {ι : Type}

/-- A run of texts as one text; a blank one is dropped. -/
def ofRun (run : List Char) : List (Tree Unit) :=
  if Text.allBlank run then [] else [.text () (String.ofList run)]

/-- An empty run makes no text. -/
@[simp]
lemma ofRun_nil : ofRun [] = [] := rfl

/-- Puts the texts that stand side by side together, with those of a run before them. -/
def joinTexts (run : List Char) : List (Tree Unit) → List (Tree Unit)
  | [] => ofRun run
  | .text _ content :: ts => joinTexts (run ++ content.toList) ts
  | .element _ tag attrs hidden children :: ts =>
    ofRun run ++ .element () tag attrs hidden children :: joinTexts [] ts

mutual

/-- A tree without its hidden elements, in which texts stand alone and none of them is blank. -/
def shown : Tree ι → List (Tree Unit)
  | element _ tag attrs hidden children =>
    if hidden then [] else [.element () tag attrs false (joinTexts [] (shownAll children))]
  | text _ content => [.text () content]

/-- Trees side by side without their hidden elements. -/
def shownAll : List (Tree ι) → List (Tree Unit)
  | [] => []
  | t :: ts => t.shown ++ shownAll ts

end

/-- The normal form of trees side by side. -/
def normal (ts : List (Tree ι)) : List (Tree Unit) :=
  joinTexts [] (shownAll ts)

/-- A tree with plain names, each of them once in a tag. -/
def Writable (t : Tree ι) : Prop :=
  ∀ u ∈ t.nodes, u.isElement = true → Markup.Plain u.tag ∧
    (∀ attr ∈ u.attrs, Markup.Plain attr.1) ∧ (u.attrs.map Prod.fst).Nodup

/-- An element can be written if its names are plain and different, and what is below it can be
written. -/
lemma writable_element {label : ι} {tag : String} {attrs : List (String × String)} {hidden : Bool}
    {children : List (Tree ι)} : (element label tag attrs hidden children).Writable ↔
      (Markup.Plain tag ∧ (∀ attr ∈ attrs, Markup.Plain attr.1) ∧ (attrs.map Prod.fst).Nodup) ∧
        ∀ t ∈ children, t.Writable := by
  simp only [Writable, nodes, nodesOf_eq_flatMap, List.mem_cons, List.mem_flatMap, forall_eq_or_imp,
    forall_exists_index, and_imp]
  exact ⟨fun h => ⟨h.1 rfl, fun t ht u hu => h.2 u t ht hu⟩,
    fun h => ⟨fun _ => h.1, fun u t ht hu => h.2 t ht u hu⟩⟩

end Tree

namespace Markup

open TreeTemplate.Tree (ofRun joinTexts shown shownAll normal Writable markups)

/-- The tags of the open elements, the innermost first. -/
def Reading.tags (r : Reading) : List String :=
  r.opened.map OpenElement.tag

/-- What the rest of markup holds, where a place in it was reached. -/
def readFrom (position skip : Nat) (r : Reading) (s : List Char) : Contents :=
  let (events, fault?) := scan position skip r.tags s
  ⟨(events.foldl Reading.apply r).trees, fault?⟩

/-- Reading on from a place leads to another place, whatever the positions are. -/
def Reading.Passes (r : Reading) (s : List Char) (r' : Reading) (s' : List Char) : Prop :=
  ∀ position, ∃ position', readFrom position 0 r s = readFrom position' 0 r' s'

/-- Several nodes more at the place that was reached. -/
def Reading.addAll (r : Reading) (ts : List Bare) : Reading :=
  { r with siblings := ts.reverse ++ r.siblings }

namespace Reading

variable {r r' r'' : Reading} {s s' s'' rest run : List Char} {ι : Type}

/-- Nothing is added by nothing. -/
lemma addAll_nil (r : Reading) : r.addAll [] = r := rfl

/-- The first of several trees is added first. -/
lemma addAll_cons (r : Reading) (t : Bare) (ts : List Bare) :
    r.addAll (t :: ts) = (r.add t).addAll ts := by
  simp [addAll, add]

/-- Trees are added one after another. -/
lemma addAll_append (r : Reading) (ts us : List Bare) :
    r.addAll (ts ++ us) = (r.addAll ts).addAll us := by
  simp [addAll]

/-- Reading is where it is. -/
lemma Passes.refl (r : Reading) (s : List Char) : r.Passes s r s := fun position => ⟨position, rfl⟩

/-- Reading goes on from where it has come to. -/
lemma Passes.trans (h : r.Passes s r' s') (h' : r'.Passes s' r'' s'') : r.Passes s r'' s'' := by
  intro position
  obtain ⟨position', hfirst⟩ := h position
  obtain ⟨position'', hsecond⟩ := h' position'
  exact ⟨position'', hfirst.trans hsecond⟩

/-- The characters of a lexeme that was read are passed over. -/
lemma readFrom_skip (position : Nat) (r : Reading) (x s : List Char) :
    readFrom position x.length r (x ++ s) = readFrom (position + Text.bytes x) 0 r s := by
  induction x generalizing position with
  | nil => rfl
  | cons c x ih =>
    have hnext : readFrom position (x.length + 1) r (c :: (x ++ s)) =
        readFrom (position + c.utf8Size) x.length r (x ++ s) := rfl
    rw [List.length_cons, List.cons_append, hnext, ih, Text.bytes_cons, Nat.add_assoc]

/-- An event leaves the open elements that are scanned on in. -/
lemma tags_apply (r : Reading) (event : Event) : (r.apply event).tags = event.opens r.tags := by
  match event with
  | .text _ | .start _ _ true | .start _ _ false | .pass => rfl
  | .stop =>
    obtain ⟨siblings, opened⟩ := r
    cases opened <;> rfl

/-- A lexeme is passed by what happens at it. -/
lemma passes_lexeme {c : Char} {lexeme : Lexeme} {extent : List Char}
    (hread : Lexeme.read c (extent ++ s) = .ok (lexeme, c :: extent))
    {event : Event} (hevent : ∀ position, lexeme.event r.tags.head? position = .ok event)
    (happly : r.apply event = r') : r.Passes (c :: (extent ++ s)) r' s := by
  subst happly
  intro position
  refine ⟨position + c.utf8Size + Text.bytes extent, ?_⟩
  rw [← readFrom_skip, readFrom, scan, hread]
  simp only [hevent, List.length_cons, Nat.add_sub_cancel, readFrom, tags_apply, List.foldl_cons]

/-- A run of texts is read as one text, unless it is blank. -/
lemma passes_run (r : Reading) (run : List Char) (hrest : ∀ d ∈ rest.head?, d = '<') :
    r.Passes (escape run ++ rest) (r.addAll (ofRun run)) rest := by
  rcases hwritten : escape run with _ | ⟨c, s⟩
  · obtain rfl : run = [] := by
      have hresolved := resolve_escape run
      rw [hwritten] at hresolved
      exact (Except.ok.inj hresolved).symm
    exact .refl r rest
  · have hclean : ∀ d ∈ c :: s, d ≠ '<' := fun d hd => (escape_clean (hwritten ▸ hd)).1
    have hevent (position : Nat) : (Lexeme.text (c :: s)).event r.tags.head? position =
        .ok (if Text.allBlank run then .pass else .text (String.ofList run)) := by
      rw [← hwritten]
      simp only [Lexeme.event, resolve_escape]
      split <;> rfl
    refine passes_lexeme (Lexeme.read_text hclean hrest) hevent ?_
    rw [ofRun]
    split <;> rfl

/-- An element without anything below it is read from one tag. -/
lemma passes_closedTag {tag : String} {attrs : List (String × String)} (r : Reading)
    (htag : Plain tag) (hplain : ∀ attr ∈ attrs, Plain attr.1)
    (hnodup : (attrs.map Prod.fst).Nodup) (rest : List Char) :
    r.Passes ('<' :: (tagChars tag attrs ++ '/' :: '>' :: rest))
      (r.add (.element () tag attrs false [])) rest := by
  have hread := Lexeme.read_closedTag htag hplain rest
  have hevent (position : Nat) := Lexeme.event_written r.tags.head? position htag hplain hnodup true
  have hlexeme := @passes_lexeme r (r.add (.element () tag attrs false [])) rest '<' _
    (tagChars tag attrs ++ ['/'] ++ ['>']) (by simpa using hread) _ hevent rfl
  simpa using hlexeme

/-- An element is entered over the tag that begins it. -/
lemma passes_startTag {tag : String} {attrs : List (String × String)} (r : Reading)
    (htag : Plain tag) (hplain : ∀ attr ∈ attrs, Plain attr.1)
    (hnodup : (attrs.map Prod.fst).Nodup) (rest : List Char) :
    r.Passes ('<' :: (tagChars tag attrs ++ '>' :: rest)) (r.enter tag attrs) rest := by
  have hread := Lexeme.read_startTag htag hplain rest
  have hevent (position : Nat) :=
    Lexeme.event_written r.tags.head? position htag hplain hnodup false
  have hlexeme := @passes_lexeme r (r.enter tag attrs) rest '<' _ (tagChars tag attrs ++ ['>'])
    (by simpa using hread) _ hevent rfl
  simpa using hlexeme

/-- The element that was entered is left over the tag that ends it. -/
lemma passes_endTag {tag : String} (r : Reading) (htag : Plain tag)
    (attrs : List (String × String)) (ts : List Bare) (rest : List Char) :
    ((r.enter tag attrs).addAll ts).Passes ('<' :: '/' :: (tag.toList ++ '>' :: rest))
      (r.add (.element () tag attrs false ts)) rest := by
  have hread := Lexeme.read_endTag htag rest
  have hevent (position : Nat) : (Lexeme.endTag tag.toList).event
      ((r.enter tag attrs).addAll ts).tags.head? position = .ok .stop := by
    simp [Lexeme.event, tags, enter, addAll]
  have hleave : ((r.enter tag attrs).addAll ts).apply .stop =
      r.add (.element () tag attrs false ts) := by
    simp [apply, leave, enter, addAll, add]
  have hlexeme := @passes_lexeme _ _ rest '<' _ ('/' :: tag.toList ++ ['>'])
    (by simpa using hread) _ hevent hleave
  simpa using hlexeme

end Reading

section Written

variable {ι : Type} {ts : List (Tree ι)} {rest : List Char}

/-- What is written of a tree is read as the tree without its hidden elements, whatever stands
behind it. -/
def ReadsBack (t : Tree ι) : Prop :=
  ∀ (r : Reading) (rest : List Char), r.Passes (t.markup.toList ++ rest) (r.addAll t.shown) rest

/-- Trees side by side are read back when their elements are: a run of texts goes on up to the next
element that is written, or up to the end. -/
lemma passes_markups (hts : ∀ t ∈ ts, t.isElement = true → ReadsBack t)
    (hrest : ∀ d ∈ rest.head?, d = '<') (r : Reading) (run : List Char) :
    r.Passes (escape run ++ ((markups ts).toList ++ rest)) (r.addAll (joinTexts run (shownAll ts)))
      rest := by
  induction ts generalizing r run with
  | nil => exact r.passes_run run hrest
  | cons t ts ih =>
    obtain ⟨ht, hlast⟩ := List.forall_mem_cons.1 hts
    cases t with
    | text label content =>
      have hrun : escape run ++ escape content.toList = escape (run ++ content.toList) := by
        simp [escape]
      have hlater := ih hlast r (run ++ content.toList)
      simpa [markups, Tree.markup, shownAll, shown, joinTexts, ← hrun] using hlater
    | element label tag attrs hidden children =>
      cases hidden with
      | true => simpa [markups, Tree.markup, shownAll, shown] using ih hlast r run
      | false =>
        have hhead : ∀ d ∈ (((Tree.element label tag attrs false children).markup.toList ++
            ((markups ts).toList ++ rest)).head?), d = '<' := by
          cases children <;> simp [Tree.markup]
        have hbefore := r.passes_run run hhead
        have helement := ht rfl (r.addAll (ofRun run)) ((markups ts).toList ++ rest)
        have hlater := ih hlast ((r.addAll (ofRun run)).addAll
          (Tree.element label tag attrs false children).shown) []
        have hall := hbefore.trans (helement.trans hlater)
        simpa [markups, shownAll, shown, joinTexts, Reading.addAll_append, Reading.addAll_cons,
          Reading.addAll_nil] using hall

/-- An element with plain names is read back. -/
lemma readsBack_of_writable {t : Tree ι} (helement : t.isElement = true) (ht : t.Writable) :
    ReadsBack t := by
  induction t using Tree.induct with
  | text label content => cases helement
  | element label tag attrs hidden children ih =>
    obtain ⟨⟨htag, hplain, hnodup⟩, hchildren⟩ := Tree.writable_element.1 ht
    intro r rest
    cases hidden with
    | true => exact .refl r rest
    | false =>
      cases children with
      | nil =>
        have hpasses := r.passes_closedTag htag hplain hnodup rest
        simpa [Tree.markup, shown, shownAll, joinTexts, tagChars, Reading.addAll_cons,
          Reading.addAll_nil] using hpasses
      | cons child children =>
        have hbegin := r.passes_startTag htag hplain hnodup
          ((markups (child :: children)).toList ++ '<' :: '/' :: (tag.toList ++ '>' :: rest))
        have hstop : ∀ d ∈ ('<' :: '/' :: (tag.toList ++ '>' :: rest)).head?, d = '<' := by simp
        have hinside := passes_markups (fun t hmem h => ih t hmem h (hchildren t hmem)) hstop
          (r.enter tag attrs) []
        have hend := r.passes_endTag htag attrs (normal (child :: children)) rest
        have hall := hbegin.trans (hinside.trans hend)
        simpa [Tree.markup, shown, normal, tagChars, Reading.addAll_cons, Reading.addAll_nil]
          using hall

/-- Trees with plain names that are written are read back in their normal form, unless what is
written begins with a byte order mark. -/
lemma parse_markups (hts : ∀ t ∈ ts, t.Writable)
    (hmark : (markups ts).toList.head? ≠ some '\uFEFF') : parse (markups ts) = .ok (normal ts) := by
  have hend : ∀ d ∈ ([] : List Char).head?, d = '<' := nofun
  obtain ⟨position, hread⟩ := passes_markups (fun t ht h => readsBack_of_writable h (hts t ht))
    hend {} [] 0
  have hcontents : read (markups ts) = ⟨normal ts, none⟩ := by
    have hstart : read (markups ts) = readFrom 0 0 {} (markups ts).toList := by
      have hevents : events (markups ts) = scan 0 0 [] (markups ts).toList := by
        unfold events
        split
        · rename_i h
          rw [h] at hmark
          exact absurd rfl hmark
        · rfl
      rw [read, hevents]
      rfl
    rw [hstart]
    simpa [readFrom, scan, Reading.tags, Reading.addAll, Reading.trees, Reading.close,
      escape, normal]
      using hread
  rw [parse_eq_ok, hcontents]
  exact ⟨rfl, rfl⟩

end Written

end Markup

end TreeTemplate
