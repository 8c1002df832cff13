import TreeTemplate.Proofs.Documents.Elements
import TreeTemplate.Proofs.Documents.Operations
import TreeTemplate.Proofs.Markup.Trees
import TreeTemplate.Proofs.Markup.Written

/-!
# Documents, written and read

The markup of a document is read back as the document in its normal form, with every text and with
every value as it was. Markup that was read is therefore stable under writing and reading, unless it
holds what cannot be written: names that end a tag, and blank texts, which only character data can
bring into a document.

Main statements:

* `parse_markup_normal` — reading undoes writing;
* `markup_parse_markup` — what was read and written is written in the same way again.
-/

namespace TreeTemplate

open Document (root)
open TreeTemplate.Tree (ofRun joinTexts shown shownAll normal Writable markups)

/-! ## Trees that are written as they are -/

namespace Tree

variable {ι : Type} {run : List Char} {ts : List (Tree ι)}

/-- A tree in which nothing is hidden and no text is blank. -/
structure ShownAndFilled (t : Tree ι) : Prop where
  shown : ∀ u ∈ t.nodes, u.isHidden = false
  filled : ∀ label content, text label content ∈ t.nodes → Text.allBlank content.toList = false

/-- Below an element with nothing hidden or blank nothing is hidden or blank. -/
lemma ShownAndFilled.children {label : ι} {tag : String} {attrs : List (String × String)}
    {hidden : Bool} {children : List (Tree ι)}
    (h : (element label tag attrs hidden children).ShownAndFilled) :
    ∀ t ∈ children, t.ShownAndFilled := by
  intro t ht
  have hsub : ∀ u ∈ t.nodes, u ∈ (element label tag attrs hidden children).nodes := fun u hu => by
    rw [nodes, nodesOf_eq_flatMap]
    exact List.mem_cons_of_mem _ (List.mem_flatMap.2 ⟨t, ht, hu⟩)
  exact ⟨fun u hu => h.shown u (hsub u hu), fun label content hu => h.filled _ _ (hsub _ hu)⟩

/-- A run that is not blank makes one text. -/
lemma ofRun_of_filled (h : Text.allBlank run = false) :
    ofRun run = [.text () (String.ofList run)] := by
  rw [ofRun, h]
  rfl

/-- A run that has begun is not blank. -/
def Begun (run : List Char) : Prop :=
  run = [] ∨ Text.allBlank run = false

/-- A run is still begun when something that is not blank follows. -/
lemma Begun.append {content : List Char} (h : Text.allBlank content = false) :
    Begun (run ++ content) := by
  right
  rw [Text.allBlank, List.all_append, Bool.and_eq_false_iff]
  exact .inr h

/-- The markup of several trees is that of the first ones and that of the others. -/
lemma markups_append (ts us : List (Tree ι)) : markups (ts ++ us) = markups ts ++ markups us := by
  induction ts with
  | nil => simp [markups]
  | cons t ts ih => simp [markups, ih, String.append_assoc]

/-- The text that a run makes is written as the run with its references. -/
lemma Begun.markups (h : Begun run) : markups (ofRun run) = String.ofList (Markup.escape run) := by
  rcases h with rfl | h
  · rfl
  · simp [ofRun_of_filled h, Tree.markups, markup]

/-- Nothing of trees with nothing hidden or blank is lost when their texts are put together. -/
lemma joinTexts_eq_nil (hts : ∀ t ∈ ts, t.ShownAndFilled) (hrun : Begun run) :
    joinTexts run (shownAll ts) = [] ↔ run = [] ∧ ts = [] := by
  induction ts generalizing run with
  | nil =>
    rcases hrun with rfl | hrun
    · simp [shownAll, joinTexts]
    · have hne : run ≠ [] := by
        rintro rfl
        cases hrun
      simp [shownAll, joinTexts, ofRun_of_filled hrun, hne]
  | cons t ts ih =>
    obtain ⟨ht, hlater⟩ := List.forall_mem_cons.1 hts
    cases t with
    | text label content =>
      have hcontent := ht.filled label content (by simp [nodes])
      have hne : content.toList ≠ [] := by
        intro hnil
        rw [hnil] at hcontent
        cases hcontent
      simpa [shownAll, shown, joinTexts, hne] using ih hlater (Begun.append hcontent)
    | element label tag attrs hidden children =>
      obtain rfl : hidden = false := ht.shown _ List.mem_cons_self
      simp [shownAll, shown, joinTexts]

/-- Trees with nothing hidden or blank are written like their normal form when those below them
are. -/
lemma markups_joinTexts (hts : ∀ t ∈ ts, t.ShownAndFilled)
    (hmarkup : ∀ t ∈ ts, t.isElement = true → markups t.shown = t.markup) (hrun : Begun run) :
    markups (joinTexts run (shownAll ts)) =
      String.ofList (Markup.escape run) ++ markups ts := by
  induction ts generalizing run with
  | nil => simp [shownAll, joinTexts, hrun.markups, markups]
  | cons t ts ih =>
    obtain ⟨ht, hlater⟩ := List.forall_mem_cons.1 hts
    obtain ⟨helement, hbelow⟩ := List.forall_mem_cons.1 hmarkup
    cases t with
    | text label content =>
      have hcontent := ht.filled label content (by simp [nodes])
      have hlast := ih hlater hbelow (show Begun (run ++ content.toList) from .append hcontent)
      simpa [shownAll, shown, joinTexts, markups, markup, Markup.escape, String.append_assoc]
        using hlast
    | element label tag attrs hidden children =>
      obtain rfl : hidden = false := ht.shown _ List.mem_cons_self
      have hbefore := hrun.markups
      have hlast := ih hlater hbelow (.inl rfl)
      have hthis := helement rfl
      simp only [shown, Bool.false_eq_true, if_false, markups, String.append_empty] at hthis
      simp only [shownAll, shown, Bool.false_eq_true, if_false, List.singleton_append, joinTexts,
        markups_append, markups, hbefore, hthis, hlast]
      simp [Markup.escape]

/-- An element with nothing hidden or blank is written like its normal form. -/
lemma markups_shown {t : Tree ι} (helement : t.isElement = true) (ht : t.ShownAndFilled) :
    markups t.shown = t.markup := by
  induction t using Tree.induct with
  | text label content => cases helement
  | element label tag attrs hidden children ih =>
    obtain rfl : hidden = false := ht.shown _ List.mem_cons_self
    have hbelow := markups_joinTexts ht.children
      (fun t hmem h => ih t hmem h (ht.children t hmem)) (show Begun [] from .inl rfl)
    have hempty : (joinTexts [] (shownAll children)).isEmpty = children.isEmpty := by
      rw [Bool.eq_iff_iff, List.isEmpty_iff, List.isEmpty_iff,
        joinTexts_eq_nil ht.children (.inl rfl)]
      simp
    simp only [shown, Bool.false_eq_true, if_false, markups, markup, hempty, hbelow]
    simp [Markup.escape]

/-- Trees with nothing hidden or blank are written like their normal form. -/
lemma markups_normal (hts : ∀ t ∈ ts, t.ShownAndFilled) : markups (normal ts) = markups ts := by
  have hall := markups_joinTexts hts (fun t ht h => markups_shown h (hts t ht))
    (show Begun [] from .inl rfl)
  simpa [normal, Markup.escape] using hall

end Tree

/-! ## Documents -/

namespace Document

variable {d : Document}

/-- The nodes directly below the document node. -/
def content (d : Document) : List (Tree NodeId) :=
  ((d.find? root).map Tree.children).getD []

/-- The markup of a document is that of its content. -/
lemma markup_eq (d : Document) : d.markup = markups d.content := by
  rw [markup, content]
  cases d.find? root <;> rfl

/-- The nodes of the markup are those at its top and those below them. -/
lemma nodesOf_content (d : Document) : Tree.nodesOf d.content = d.attached.drop 1 := by
  rw [attached, content]
  rcases d.find? root with _ | t
  · rfl
  · cases t <;> rfl

/-- A node of a tree at the top of the markup is one of the markup. -/
lemma mem_attached {t u : Tree NodeId} (ht : t ∈ d.content) (hu : u ∈ t.nodes) :
    u ∈ d.attached.drop 1 := by
  rw [← nodesOf_content, Tree.nodesOf_eq_flatMap]
  exact List.mem_flatMap.2 ⟨t, ht, hu⟩

/-- A document that was made of trees holds them. -/
lemma content_ofTrees (trees : List (Tree Unit)) :
    (ofTrees trees).content.map Tree.bare = trees := by
  let source : Tree (Option Unit) :=
    .element none "#document" [] false (trees.map (·.relabel some))
  have hfind : ((ofTrees trees).find? root).map Tree.bare = some source.bare :=
    plant_find?_bare ⟨[], {}⟩ source
  obtain ⟨t, hroot, hbare⟩ := Option.map_eq_some_iff.1 hfind
  have hchildren : t.children.map Tree.bare = source.bare.children := by
    rw [← hbare]
    cases t with
    | text => rfl
    | element => exact (Stocked.relabelAll_eq_map _ _).symm
  rw [content, hroot, Option.map_some, Option.getD_some, hchildren]
  simp only [source, Tree.bare, Tree.relabel, Tree.children, Stocked.relabelAll_eq_map,
    List.map_map, Function.comp_def, Tree.relabel_relabel]
  exact (List.map_congr_left fun t _ => Stocked.bare_unit t).trans (List.map_id _)

end Document

variable {d : Document}

/-- Whether a character may stand in the names of which reading undoes writing: a letter or a digit
of ASCII, or one of four marks. -/
def Markup.isNameChar (c : Char) : Bool :=
  c.isAlphanum || ['-', '_', '.', ':'].contains c

/-- A name that is not empty and whose characters may all stand in a name. -/
def Markup.IsName (name : String) : Prop :=
  name ≠ "" ∧ ∀ c ∈ name.toList, isNameChar c = true

instance (name : String) : Decidable (Markup.IsName name) :=
  decidable_of_iff (name ≠ "" ∧ name.toList.all Markup.isNameChar = true) (by simp [Markup.IsName])

/-- The characters of a name are plain. -/
lemma Markup.IsName.plain {name : String} (h : IsName name) : Plain name where
  ne_nil hnil := h.1 (String.toList_eq_nil_iff.1 hnil)
  isPlain c hc := by
    have hname := h.2 c hc
    by_contra hplain
    have hmem : c ∈ [' ', '\t', '\r', '\n', '=', '"', '\'', '>', '/', '!', '?'] := by
      simp [isPlain, isSpace] at hplain
      simp
      tauto
    have hnone : [' ', '\t', '\r', '\n', '=', '"', '\'', '>', '/', '!', '?'].all
        (fun c => !isNameChar c) = true := by decide
    have hc := List.all_eq_true.1 hnone c hmem
    rw [hname] at hc
    cases hc

/-- Trees can be written when the elements of their document can. -/
lemma Document.writable_content
    (hnames : ∀ t ∈ d.elements, Markup.Plain t.tag ∧ ∀ attr ∈ t.attrs, Markup.Plain attr.1)
    (hdistinct : ∀ t ∈ d.elements, (t.attrs.map Prod.fst).Nodup) :
    ∀ t ∈ d.content, t.Writable := by
  intro t ht u hu helement
  have hmem : u ∈ d.elements := List.mem_filter.2 ⟨mem_attached ht hu, helement⟩
  exact ⟨(hnames u hmem).1, (hnames u hmem).2, hdistinct u hmem⟩

/-- The markup of a document is read as the document in its normal form. -/
lemma Document.exists_parse_markup (hwritable : ∀ t ∈ d.content, t.Writable)
    (hmark : d.markup.toList.head? ≠ some '\uFEFF') :
    ∃ d', parse d.markup = .ok d' ∧ d'.content.map Tree.bare = normal d.content := by
  rw [markup_eq] at hmark ⊢
  exact ⟨_, parse_eq_ok.2 ⟨_, Markup.parse_markups hwritable hmark, rfl⟩, content_ofTrees _⟩

/-- Reading undoes writing: where the names of a document are made of letters, digits and some
marks, and no element has two attributes of one name, its markup is accepted, and what is read from
it is the document in its normal form, whatever its texts and the values of its attributes are. -/
theorem parse_markup_normal
    (hnames : ∀ t ∈ d.elements, Markup.IsName t.tag ∧ ∀ attr ∈ t.attrs, Markup.IsName attr.1)
    (hdistinct : ∀ t ∈ d.elements, (t.attrs.map Prod.fst).Nodup)
    (hmark : d.markup.toList.head? ≠ some '\uFEFF') :
    ∃ d', Document.parse d.markup = .ok d' ∧ d'.content.map Tree.bare = normal d.content :=
  Document.exists_parse_markup
    (Document.writable_content
      (fun t ht => ⟨(hnames t ht).1.plain, fun attr hattr => ((hnames t ht).2 attr hattr).plain⟩)
      hdistinct)
    hmark

/-- A document made by hand. The texts around a hidden element become one, and one that is white
space is dropped. -/
theorem parse_markup_normal_merged :
    let ops : List Operation := [.create "p", .append root ⟨1⟩, .setMarkup ⟨1⟩ " a<i/>b<u><s/></u>",
      .setHidden ⟨3⟩ true, .setAttr ⟨1⟩ "title" "\"]]>&'", .setText ⟨6⟩ "\u00A0"]
    ∃ d d', Operation.runAll? .empty ops = some d ∧
      d.markup = "<p title=\"&quot;]]&gt;&amp;&apos;\"> ab<u><s>\u00A0</s></u></p>" ∧
      Document.parse d.markup = .ok d' ∧ d'.content.map Tree.bare = normal d.content ∧
      (Tree.nodesOf (normal d.content)).map Tree.tag = ["p", "#text", "u", "s"] := by
  intro ops
  have hrun : (Operation.runAll? .empty ops).any (fun d => decide
      ((∀ t ∈ d.elements, Markup.IsName t.tag ∧ ∀ attr ∈ t.attrs, Markup.IsName attr.1) ∧
      (∀ t ∈ d.elements, (t.attrs.map Prod.fst).Nodup) ∧
      d.markup.toList.head? ≠ some '\uFEFF' ∧
      d.markup = "<p title=\"&quot;]]&gt;&amp;&apos;\"> ab<u><s>\u00A0</s></u></p>" ∧
      (Tree.nodesOf (normal d.content)).map Tree.tag = ["p", "#text", "u", "s"])) = true := by
    decide +kernel
  obtain ⟨d, hd, hall⟩ := (Option.any_eq_true _ _).1 hrun
  obtain ⟨hnames, hdistinct, hmark, hmarkup, hnormal⟩ := of_decide_eq_true hall
  obtain ⟨d', hparse, hcontent⟩ := parse_markup_normal hnames hdistinct hmark
  exact ⟨d, d', hd, hmarkup, hparse, hcontent, hnormal⟩

/-- The trees of a document that was read are those that were read. -/
lemma Document.bare_mem_of_parse {markup : String} (h : parse markup = .ok d) :
    ∀ t ∈ d.content, t.bare ∈ (Markup.read markup).trees := by
  obtain ⟨trees, hread, rfl⟩ := parse_eq_ok.1 h
  obtain ⟨-, rfl⟩ := Markup.parse_eq_ok.1 hread
  intro t ht
  have hcontent := content_ofTrees (Markup.read markup).trees
  exact hcontent ▸ List.mem_map_of_mem ht

/-- Where the names of a document that was read are plain and none of its texts is blank, its markup
is accepted, and what is read from it is written in the same way again. -/
theorem markup_parse_markup {markup : String} (h : Document.parse markup = .ok d)
    (hnames : ∀ t ∈ d.elements, Markup.Plain t.tag ∧ ∀ attr ∈ t.attrs, Markup.Plain attr.1)
    (htexts : ∀ t ∈ d.attached, t.isElement = false → Text.allBlank t.textContent.toList = false)
    (hmark : d.markup.toList.head? ≠ some '\uFEFF') :
    ∃ d', Document.parse d.markup = .ok d' ∧ d'.markup = d.markup := by
  have hbare := Document.bare_mem_of_parse h
  have hnodes : ∀ t ∈ d.content, ∀ u ∈ t.nodes, u.bare ∈ t.bare.nodes := fun t _ u hu => by
    rw [Tree.bare, Tree.bare, Tree.nodes_relabel]
    exact List.mem_map_of_mem hu
  have hsolid : ∀ t ∈ d.content, t.ShownAndFilled := fun t ht =>
    { shown := fun u hu => by
        have hshown := Markup.shown_read markup _ (hbare t ht) _ (hnodes t ht u hu)
        rwa [Tree.bare, Tree.isHidden_relabel] at hshown
      filled := fun label content hu =>
        htexts _ (List.mem_of_mem_drop (Document.mem_attached ht hu)) rfl }
  have hdistinct : ∀ t ∈ d.content, t.Distinct := fun t ht =>
    (Tree.distinct_relabel _ t).1 (Markup.distinct_read markup _ (hbare t ht))
  have hwritable : ∀ t ∈ d.content, t.Writable := fun t ht u hu helement =>
    have hmem : u ∈ d.elements := List.mem_filter.2 ⟨Document.mem_attached ht hu, helement⟩
    ⟨(hnames u hmem).1, (hnames u hmem).2, hdistinct t ht u hu⟩
  obtain ⟨d', hparse, hcontent⟩ := Document.exists_parse_markup hwritable hmark
  have hwritten : markups d'.content = markups (d'.content.map Tree.bare) := by
    have hrelabel := Tree.markups_relabelAll (fun _ => ()) d'.content
    rw [Stocked.relabelAll_eq_map] at hrelabel
    exact hrelabel.symm
  refine ⟨d', hparse, ?_⟩
  rw [Document.markup_eq, Document.markup_eq, hwritten, hcontent, Tree.markups_normal hsolid]

/-- A comment between texts, character data, and values in either kind of quotation marks. -/
theorem markup_parse_markup_data : ∃ d d',
    Document.parse "<a b='x\"y'>1 &lt; 2<!-- < --><c></c><![CDATA[<d>]]>&#38;</a>" = .ok d ∧
    d.markup = "<a b=\"x&quot;y\">1 &lt; 2<c/>&lt;d&gt;&amp;</a>" ∧
    Document.parse d.markup = .ok d' ∧ d'.markup = d.markup := by
  obtain ⟨d, hparse, hnames, htexts, hmark, hmarkup⟩ := exists_ok_of_check
    (Document.parse "<a b='x\"y'>1 &lt; 2<!-- < --><c></c><![CDATA[<d>]]>&#38;</a>")
    (p := fun d =>
      (∀ t ∈ d.elements, Markup.IsName t.tag ∧ ∀ attr ∈ t.attrs, Markup.IsName attr.1) ∧
      (∀ t ∈ d.attached, t.isElement = false → Text.allBlank t.textContent.toList = false) ∧
      d.markup.toList.head? ≠ some '\uFEFF' ∧
      d.markup = "<a b=\"x&quot;y\">1 &lt; 2<c/>&lt;d&gt;&amp;</a>")
    (by decide +kernel)
  obtain ⟨d', hagain, hsame⟩ := markup_parse_markup hparse
    (fun t ht => ⟨(hnames t ht).1.plain, fun attr hattr => ((hnames t ht).2 attr hattr).plain⟩)
    htexts hmark
  exact ⟨d, d', hparse, hmarkup, hagain, hsame⟩

/-- A text of white space that was character data does not outlast writing and reading. -/
theorem markup_parse_markup_blank : ∃ d, Document.parse "<a><![CDATA[ ]]></a>" = .ok d ∧
    ¬ ∃ d', Document.parse d.markup = .ok d' ∧ d'.markup = d.markup := by
  obtain ⟨d, hparse, hmarkup⟩ := exists_ok_of_check (Document.parse "<a><![CDATA[ ]]></a>")
    (p := fun d => d.markup = "<a> </a>") (by decide +kernel)
  obtain ⟨again, hagain, hlost⟩ := exists_ok_of_check (Document.parse "<a> </a>")
    (p := fun d => d.markup = "<a/>") (by decide +kernel)
  refine ⟨d, hparse, ?_⟩
  rintro ⟨d', hread, hsame⟩
  rw [hmarkup] at hread hsame
  obtain rfl : again = d' := Except.ok.inj (hagain.symm.trans hread)
  rw [hlost] at hsame
  exact absurd hsame (by decide)

end TreeTemplate
