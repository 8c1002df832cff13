import TreeTemplate.Proofs.Documents.Anchored
import TreeTemplate.Proofs.Documents.Commuting
import TreeTemplate.Proofs.Documents.Items
import TreeTemplate.Proofs.Injection.Composed

/-!
# Scopes compose like paths

A wrapper opens a scope, and the only element in it is filled from a path in that scope. Where the
wrapper opens no scope and the element is filled from the two paths joined, the same becomes of the
element, and as much is recorded.

Main statements:

* `Walk.State.Unstashed.inject` — an injection at an element that nothing is stashed for;
* `scopes_compose` — a wrapper that opens a scope, and one that does not.
-/

namespace TreeTemplate

open TreeTemplate.Tree (releasedOf)

/-! ## Elements that nothing is stashed for -/

namespace Walk.State

/-- A node is found in a document in order. What is stashed is stashed for nodes of that document,
for each of them once, and nothing is stashed for the node that is found and for those below it. -/
structure Unstashed (s : Walk.State) (n : NodeId) (t : Tree NodeId) : Prop where
  whole : IdentitiesOnce s
  found : s.document.find? n = some t
  once : (s.stash.entries.map Prod.fst).Nodup
  live : ∀ m ∈ s.stash.entries.map Prod.fst, (s.document.find? m).isSome = true
  outside : ∀ m ∈ s.stash.entries.map Prod.fst, m ∉ t.released

end Walk.State

/-- What is below a tree without labels is what is below the tree, without labels. -/
lemma Tree.children_bare {ι : Type} (t : Tree ι) : t.bare.children = t.children.map Tree.bare := by
  cases t with
  | element => exact Stocked.relabelAll_eq_map _ _
  | text => rfl

/-- The elements below a tree without labels are those below the tree, without labels. -/
lemma Tree.elements_bare {ι : Type} (t : Tree ι) : t.bare.elements = t.elements.map Tree.bare := by
  have hsame : Tree.isElement ∘ Tree.bare = Tree.isElement (ι := ι) :=
    funext fun t => Tree.isElement_relabel _ t
  rw [Tree.elements, Tree.children_bare, List.filter_map, hsame]
  rfl

/-- Labels do not count for the elements of a tree. -/
lemma Tree.forall_heads_bare {p : Head → Prop} {t : Tree NodeId}
    (h : ∀ u ∈ t.nodes, p u.head) : ∀ head ∈ Tree.heads [t.bare], p head := by
  have hheads : Tree.heads [t.bare] = Tree.heads [t] := Tree.heads_relabel (fun _ => ()) [t]
  rw [hheads]
  intro head hhead
  obtain ⟨u, hu, rfl⟩ := List.mem_map.1 hhead
  refine h u ?_
  obtain ⟨v, hv, huv⟩ := Tree.mem_nodesOf.1 (List.mem_filter.1 hu).1
  rwa [List.mem_singleton.1 hv] at huv

/-- An element that nothing is stashed for, by itself. -/
def Element.ofTree {ι : Type} (t : Tree ι) : Element ι :=
  ⟨t.head, [], t.children.map Stocked.ofTree⟩

namespace Element

variable {ι : Type} {t : Tree ι}

/-- An element by itself with its label is the tree that it was taken from. -/
lemma labelled_ofTree (ht : t.isElement = true) :
    (Element.ofTree t).labelled t.label = Stocked.ofTree t := by
  cases t with
  | element => exact Stocked.ofTree_element.symm
  | text => cases ht

/-- It does not matter whether the labels are taken away before or after an element is looked at by
itself. -/
lemma bare_ofTree (t : Tree ι) : (Element.ofTree t).bare = Element.ofTree t.bare := by
  have hhead : t.bare.head = t.head := Tree.head_relabel _ t
  simp only [Element.ofTree, Element.bare, hhead, Tree.children_bare, List.map_nil, List.map_map,
    Function.comp_def, Stocked.bare_ofTree]

/-- An element that nothing is stashed for can be entered if no jump leaves it. -/
lemma entered_ofTree {d : Dialect} {u : Tree Unit} (hu : u.isElement = true)
    (hall : (Element.ofTree u).whole.All fun P => P.head.JumpFree d) :
    Entered d (Element.ofTree u).whole := by
  have hwhole : (Element.ofTree u).whole = Stocked.ofTree u := labelled_ofTree hu
  rw [hwhole] at hall ⊢
  exact ⟨Stocked.fit_ofTree u, Stocked.tidy_ofTree u, Stocked.All.allBut hall⟩

end Element

namespace Walk.State.Unstashed

variable {s : Walk.State} {n : NodeId} {t : Tree NodeId}

/-- Nothing is stashed for a document that was just read. -/
lemma of_parse {markup : String} {d : Document} (h : Document.parse markup = .ok d)
    (hn : d.find? n = some t) : State.Unstashed { document := d } n t := by
  obtain ⟨ts, hts⟩ := Template.anchored_of_parse h Document.root
  exact ⟨⟨ts, hts.document⟩, hn, List.nodup_nil, nofun, nofun⟩

/-- A state holds an element that nothing is stashed for. -/
lemma holds (h : s.Unstashed n t) (ht : t.isElement = true) :
    ∃ φ, Holds s ⟨n, s.positions, s.depth⟩ φ (Element.ofTree t) := by
  obtain ⟨ts, hts⟩ := h.whole
  obtain ⟨C, rest, -, hplug, rfl⟩ := hts.exists_plug h.found
  have hkeys (m : NodeId) : (s.stash.entries.map Prod.fst).count m ≤
      (C.ids ++ releasedOf rest).count m := by
    -- a key that is stashed is used in the document, and not in the tree
    by_cases hm : m ∈ s.stash.entries.map Prod.fst
    · have hcount := List.nodup_iff_count_le_one.1 h.once m
      have hlive := hplug.find?_isSome.1 (h.live m hm)
      rw [Tree.releasedOf_cons, List.mem_append, Tree.mem_released_plug, or_assoc] at hlive
      have hmem := List.mem_append.2 (hlive.resolve_left (h.outside m hm))
      exact hcount.trans (List.count_pos_iff.2 hmem)
    · rw [List.count_eq_zero.2 hm]
      exact Nat.zero_le _
  refine ⟨⟨C, rest, s.stash.entries, hkeys⟩, ?_, ?_, rfl, rfl⟩
  · rw [Element.labelled_ofTree ht, Stocked.tree_ofTree, Stocked.roots_ofTree]
    exact hplug
  · rw [Element.labelled_ofTree ht, Stocked.entries_ofTree]
    exact .refl _

/-- An injection at an element that nothing is stashed for, and that no jump leaves. -/
lemma inject {c : Setting} (h : s.Unstashed n t) (ht : t.isElement = true)
    (hall : (Element.ofTree t.bare).whole.All fun P => P.head.JumpFree c.engine.dialect)
    (room : Nat) (scope : Value) (isItem : Bool) :
    let left := c.inject room n scope isItem s
    let yield := Local.inject c room s.depth s.positions scope isItem (Element.ofTree t.bare)
    left.1 = yield.result.mapError Stop.fault ∧
      left.2.below? n = some (yield.state.children.map Stocked.tree) ∧
      left.2.diagnostics = s.diagnostics ++ yield.notes := by
  intro left yield
  obtain ⟨φ, hholds⟩ := h.holds ht
  have hentered : Entered c.engine.dialect (Element.ofTree t).bare.whole := by
    rw [Element.bare_ofTree]
    exact Element.entered_ofTree ((Tree.isElement_relabel _ t).trans ht) hall
  have hreaches := inject_follows c room s.depth scope isItem rfl hentered hholds
  rw [Element.bare_ofTree] at hreaches
  obtain ⟨Q, hQ, hleft⟩ := hreaches.shows
  refine ⟨hreaches.result, ?_, hreaches.diagnostics⟩
  have hbelow := hleft.below?
  rwa [hQ] at hbelow

end Walk.State.Unstashed

/-! ## Wrappers -/

namespace Tree

variable {ι : Type} {opens fills operand : String} {t : Tree ι} {ts before after : List (Tree ι)}

/-- A wrapper that opens no scope, around what was in it with another operand. -/
def joined (opens fills operand : String) (t : Tree ι) : Tree ι :=
  (t.removeAttr opens).setChildren (t.children.map (·.setAttr fills operand))

/-- What leaves texts as they are leaves texts side by side. -/
lemma map_texts {f : Tree ι → Tree ι}
    (hf : ∀ label content, f (.text label content) = .text label content)
    (h : ts.filter isElement = []) : ts.map f = ts := by
  refine (List.map_congr_left fun t ht => ?_).trans (List.map_id ts)
  cases t with
  | element => exact absurd rfl (List.filter_eq_nil_iff.1 h _ ht)
  | text label content => exact hf label content

/-- Setting an attribute leaves the kind of a node as it is. -/
lemma isElement_setAttr (name value : String) (t : Tree ι) :
    (t.setAttr name value).isElement = t.isElement := by
  cases t <;> rfl

/-- Setting an attribute of an element changes its head. -/
lemma head_setAttr (h : t.isElement = true) (name value : String) :
    (t.setAttr name value).head = t.head.setAttr name value := by
  cases t with
  | element => rfl
  | text => cases h

/-- A wrapper without its scope is of the kind of the wrapper. -/
lemma isElement_joined (t : Tree ι) : (t.joined opens fills operand).isElement = t.isElement := by
  cases t <;> rfl

/-- A wrapper without its scope looks like the wrapper but for the attribute that opens the
scope. -/
lemma head_joined (h : t.isElement = true) :
    (t.joined opens fills operand).head = t.head.removeAttr opens := by
  cases t with
  | element => rfl
  | text => cases h

/-- Below a wrapper without its scope is what was below the wrapper, with another operand in the one
element. -/
lemma children_joined {inner : Tree ι} (h : t.isElement = true)
    (hchildren : t.children = before ++ inner :: after) (hbefore : before.filter isElement = [])
    (hafter : after.filter isElement = []) : (t.joined opens fills operand).children =
      before ++ inner.setAttr fills operand :: after := by
  have hjoined : (t.joined opens fills operand).children =
      t.children.map (·.setAttr fills operand) := by
    cases t with
    | element => rfl
    | text => cases h
  rw [hjoined, hchildren, List.map_append, List.map_cons, map_texts (fun _ _ => rfl) hbefore,
    map_texts (fun _ _ => rfl) hafter]

/-- Around the only element below a node there are texts. -/
lemma exists_of_elements_eq {inner : Tree ι} (h : t.elements = [inner]) :
    ∃ before after, t.children = before ++ inner :: after ∧ inner.isElement = true ∧
      before.filter isElement = [] ∧ after.filter isElement = [] := by
  obtain ⟨before, after, hchildren, hbefore, hinner, hafter⟩ := List.filter_eq_cons_iff.1 h
  exact ⟨before, after, hchildren, hinner, List.filter_eq_nil_iff.2 hbefore, hafter⟩

end Tree

/-- A wrapper without its scope, around an element with another operand, both by themselves. -/
lemma Element.ofTree_joined {opens fills operand : String} {u inner : Tree Unit}
    {before after : List (Tree Unit)} (hu : u.isElement = true)
    (hinner : inner.isElement = true) (hchildren : u.children = before ++ inner :: after)
    (hbefore : before.filter Tree.isElement = []) (hafter : after.filter Tree.isElement = []) :
    Element.ofTree (u.joined opens fills operand) =
      ⟨u.head.removeAttr opens, [], before.map Stocked.ofTree ++
        Element.whole ⟨inner.head.setAttr fills operand, [], inner.children.map Stocked.ofTree⟩ ::
          after.map Stocked.ofTree⟩ := by
  have hwhole : Stocked.ofTree (inner.setAttr fills operand) =
      Element.whole ⟨inner.head.setAttr fills operand, [], inner.children.map Stocked.ofTree⟩ := by
    cases inner with
    | element => exact Stocked.ofTree_element
    | text => cases hinner
  rw [Element.ofTree, Tree.head_joined hu, Tree.children_joined hu hchildren hbefore hafter,
    List.map_append, List.map_cons, hwhole]

namespace Head

variable {d : Dialect} {h : Head} {name : String}

/-- Removing an attribute adds no jump. -/
lemma JumpFree.removeAttr (hjump : h.JumpFree d) (name : String) :
    (h.removeAttr name).JumpFree d :=
  fun attr hattr => hjump attr (List.mem_of_mem_filter hattr)

/-- Setting an attribute that declares no jump adds none. -/
lemma JumpFree.setAttr (hjump : h.JumpFree d) (hname : d.operator? name ≠ some .jump)
    (value : String) : (h.setAttr name value).JumpFree d := by
  have hfree (attrs : List (String × String)) :
      attrs.filter (fun attr => d.operator? attr.1 == some .jump) = [] ↔
        ∀ attr ∈ attrs, d.operator? attr.1 ≠ some .jump := by
    simp [List.filter_eq_nil_iff]
  refine (hfree _).1 ?_
  rw [Head.setAttr, Tree.filter_replaceAttr (fun found => d.operator? found == some .jump),
    if_neg (by simpa using hname)]
  exact (hfree _).2 hjump

end Head

/-- Joining paths makes no jump. -/
lemma Element.jumpFree_joined {d : Dialect} {opens fills operand : String} {u inner : Tree Unit}
    (hu : u.isElement = true) (hinner : u.elements = [inner])
    (hfills : d.operator? fills ≠ some .jump)
    (hall : (Element.ofTree u).whole.All fun P => P.head.JumpFree d) :
    (Element.ofTree (u.joined opens fills operand)).whole.All fun P => P.head.JumpFree d := by
  obtain ⟨before, after, hchildren, hinner, hbefore, hafter⟩ := Tree.exists_of_elements_eq hinner
  rw [Element.ofTree_joined hu hinner hchildren hbefore hafter]
  obtain ⟨hhead, -, hbelow⟩ := Stocked.all_element.1 hall
  rw [Element.ofTree, hchildren, List.map_append, List.map_cons, List.forall_mem_append,
    List.forall_mem_cons] at hbelow
  obtain ⟨hbefore, hall, hafter⟩ := hbelow
  rw [← Element.labelled_ofTree hinner] at hall
  obtain ⟨hhead', -, hbelow⟩ := Stocked.all_element.1 hall
  refine Stocked.all_element.2 ⟨hhead.removeAttr opens, nofun, ?_⟩
  rw [List.forall_mem_append, List.forall_mem_cons]
  exact ⟨hbefore, Stocked.all_element.2 ⟨hhead'.setAttr hfills operand, nofun, hbelow⟩, hafter⟩

/-- What is left below a wrapper where it is left below the only element in it. -/
lemma Element.tree_inside {u inner : Tree Unit} {before after : List (Tree Unit)} {F : Element Unit}
    (hchildren : u.children = before ++ inner :: after) (hinner : inner.isElement = true)
    (hbefore : before.filter Tree.isElement = []) (hafter : after.filter Tree.isElement = [])
    (hF : F.head = inner.head) :
    (before.map Stocked.ofTree ++ F.whole :: after.map Stocked.ofTree).map Stocked.tree =
      u.children.map (Tree.setChildren (F.children.map Stocked.tree)) := by
  have hsame (ts : List (Tree Unit)) (h : ts.filter Tree.isElement = []) :
      ts.map (Tree.setChildren (F.children.map Stocked.tree)) = ts :=
    Tree.map_texts (fun _ _ => rfl) h
  have hwhole : F.whole.tree = inner.setChildren (F.children.map Stocked.tree) := by
    cases inner with
    | text => cases hinner
    | element label tag attrs hidden children =>
      rw [Element.whole, Element.labelled, Stocked.tree_element, hF]
      rfl
  rw [hchildren, List.map_append, List.map_append, List.map_cons, List.map_cons,
    Stocked.map_tree_ofTree, Stocked.map_tree_ofTree, hwhole, hsame _ hbefore, hsame _ hafter]

/-- An element in a wrapper that opens a scope, and one with the paths joined in the wrapper without
that scope, as trees. -/
lemma Local.inject_joined {c : Setting} {u inner : Tree Unit} {opens fills first second : String}
    {operator : ContentOperator} {path : Path} {names : List String}
    (hu : u.isElement = true) (hopens : u.head.FilledBy c.engine.dialect opens .object first)
    (hshows : u.head.showsValue c.engine.dialect = false) (hinner : u.elements = [inner])
    (hfills : inner.head.FilledOnlyBy c.engine.dialect fills operator second)
    (hoperator : operator ≠ .object ∧ operator ≠ .numbering)
    (htext : operator = .text → inner.elements = [])
    (hfirst : Path.parse first = .ok path) (hpath : first ≠ ".")
    (hsecond : Path.parse second = .ok (.relative names)) {scope : Value}
    (hscope : scope.isComposite = true) (room depth : Nat) (positions : List Nat) (isItem : Bool) :
    let v := u.joined opens fills (first ++ "." ++ second)
    let one := Local.inject c room depth positions scope isItem (Element.ofTree u)
    let other := Local.inject c room depth positions scope isItem (Element.ofTree v)
    (∃ f g, one.result = .error f ∧ other.result = .error g) ∨
    one.result = .ok () ∧ other.result = .ok () ∧
      one.notes.map Fault.faultClass = other.notes.map Fault.faultClass ∧
      ∃ content, one.state.children.map Stocked.tree = u.children.map (Tree.setChildren content) ∧
        other.state.children.map Stocked.tree = v.children.map (Tree.setChildren content) := by
  intro v one other
  obtain ⟨before, after, hchildren, helement, hbefore, hafter⟩ := Tree.exists_of_elements_eq hinner
  have hreads : operator.readsPath = true := by
    cases operator with
    | numbering => exact absurd rfl hoperator.2
    | _ => rfl
  have hbelow : (Element.ofTree u).children = before.map Stocked.ofTree ++
      (Element.ofTree inner).whole :: after.map Stocked.ofTree := by
    have hwhole : (Element.ofTree inner).whole = Stocked.ofTree inner :=
      Element.labelled_ofTree helement
    rw [Element.ofTree, hchildren, List.map_append, List.map_cons, hwhole]
  have htext' (e : operator = .text) : (Element.ofTree inner).elements = [] := by
    rw [Element.elements, Element.ofTree, filter_isElement_ofTrees, ← Tree.elements, htext e,
      List.map_nil]
  have htexts (ts : List (Tree Unit)) (h : ts.filter Tree.isElement = []) :
      (ts.map Stocked.ofTree).filter Stocked.isElement = [] := by
    rw [filter_isElement_ofTrees, h, List.map_nil]
  -- the injections are compared as local actions, and what is left of each is read back as a tree
  have hjoined : Element.ofTree v = _ := Element.ofTree_joined hu helement hchildren hbefore hafter
  have hinside : Local.SameInside (before.map Stocked.ofTree) (after.map Stocked.ofTree) inner.head
      (inner.head.setAttr fills (first ++ "." ++ second)) one other := by
    simp only [one, other, hjoined]
    exact Local.inject_composed hscope hfirst hpath hsecond hfills hreads hoperator.1 htext'
      (htexts _ hbefore) (htexts _ hafter) hopens hshows hbelow room depth isItem
  rcases hinside with hstops | ⟨hok, hok', hnotes, F, F', hF, hF', hsame, hstate, hstate'⟩
  · exact .inl hstops
  · refine .inr ⟨hok, hok', hnotes, F.children.map Stocked.tree, ?_, ?_⟩
    · rw [hstate]
      exact Element.tree_inside hchildren helement hbefore hafter hF
    · rw [hstate', ← hsame]
      exact Element.tree_inside (Tree.children_joined hu hchildren hbefore hafter)
        ((Tree.isElement_setAttr ..).trans helement) hbefore hafter
        (hF'.trans (Tree.head_setAttr helement ..).symm)

/-- Two documents hold a wrapper each. The first wrapper opens a scope by one path, and the only
element in it is filled from a second path by its only directive; the second wrapper is the same
without the scope, and the element in it is filled from the two paths joined. In any composite scope
an injection at either of the wrappers stops because the template is written wrongly, or both
succeed: then the same nodes are left below the elements in the wrappers, nothing else in the
wrappers changes, and as many faults are recorded, which are of the same classes in the same order.

The wrappers may have further directives, as long as none of them shows a value in the place of what
is in the wrapper. -/
theorem scopes_compose {c : Setting} {s s' : Walk.State} {n n' : NodeId}
    {a a' inner : Tree NodeId} {opens fills first second : String} {operator : ContentOperator}
    {path : Path} {names : List String} (h : s.Unstashed n a) (h' : s'.Unstashed n' a')
    (hjoined : a'.bare = a.bare.joined opens fills (first ++ "." ++ second))
    (hpositions : s'.positions = s.positions) (hdepth : s'.depth = s.depth)
    (hjump : ∀ t ∈ a.nodes, t.head.JumpFree c.engine.dialect)
    (hopens : a.head.FilledBy c.engine.dialect opens .object first)
    (hshows : a.head.showsValue c.engine.dialect = false) (hinner : a.elements = [inner])
    (hfills : inner.head.FilledOnlyBy c.engine.dialect fills operator second)
    (hoperator : operator ≠ .object ∧ operator ≠ .numbering)
    (htext : operator = .text → inner.elements = [])
    (hfirst : Path.parse first = .ok path) (hpath : first ≠ ".")
    (hsecond : Path.parse second = .ok (.relative names)) {scope : Value}
    (hscope : scope.isComposite = true) (room : Nat) (isItem : Bool) :
    let one := c.inject room n scope isItem s
    let other := c.inject room n' scope isItem s'
    (∃ f g, one.1 = .error (.fault f) ∧ other.1 = .error (.fault g) ∧
      f.faultClass = .assertion ∧ g.faultClass = .assertion) ∨
    one.1 = .ok () ∧ other.1 = .ok () ∧
      (∃ content, one.2.below? n = some (a.children.map fun t => t.bare.setChildren content) ∧
        other.2.below? n' = some (a'.children.map fun t => t.bare.setChildren content)) ∧
      ∃ noted noted', one.2.diagnostics = s.diagnostics ++ noted ∧
        other.2.diagnostics = s'.diagnostics ++ noted' ∧
        noted.map Fault.faultClass = noted'.map Fault.faultClass := by
  intro one other
  have ha : a.isElement = true := by
    cases a with
    | element => rfl
    | text => cases hopens.alone
  have hbare (t : Tree NodeId) : t.bare.head = t.head := Tree.head_relabel _ t
  have helement (t : Tree NodeId) : t.bare.isElement = t.isElement := Tree.isElement_relabel _ t
  have ha' : a'.isElement = true := by
    rw [← helement a', hjoined, Tree.isElement_joined, helement, ha]
  have helements : a.bare.elements = [inner.bare] := by
    rw [Tree.elements_bare, hinner]
    rfl
  have hall : (Element.ofTree a.bare).whole.All fun P => P.head.JumpFree c.engine.dialect := by
    have hwhole : (Element.ofTree a.bare).whole = Stocked.ofTree a.bare :=
      Element.labelled_ofTree ((helement a).trans ha)
    rw [hwhole]
    exact Stocked.all_of_heads _ (Tree.forall_heads_bare hjump)
  have hall' : (Element.ofTree a'.bare).whole.All fun P => P.head.JumpFree c.engine.dialect := by
    rw [hjoined]
    refine Element.jumpFree_joined ((helement a).trans ha) helements ?_ hall
    rw [hfills.declares]
    nofun
  -- both walks do what the local action does, so that it is enough to compare two local actions
  obtain ⟨hresult, hbelow, hnotes⟩ := h.inject ha hall room scope isItem
  obtain ⟨hresult', hbelow', hnotes'⟩ := h'.inject ha' hall' room scope isItem
  have hinside := Local.inject_joined ((helement a).trans ha) (hbare a ▸ hopens) (hbare a ▸ hshows)
    helements (hbare inner ▸ hfills) hoperator (fun e => by rw [Tree.elements_bare, htext e]; rfl)
    hfirst hpath hsecond hscope room s.depth s.positions isItem
  rw [hpositions, hdepth, hjoined] at hresult' hbelow' hnotes'
  rcases hinside with ⟨f, g, hf, hg⟩ | ⟨hok, hok', hclasses, content, hchildren, hchildren'⟩
  · refine .inl ⟨f, g, ?_, ?_, Local.OnlyAssertions.inject _ _ _ _ _ hf,
      Local.OnlyAssertions.inject _ _ _ _ _ hg⟩
    · rw [hf] at hresult
      exact hresult
    · rw [hg] at hresult'
      exact hresult'
  · rw [hok] at hresult
    rw [hok'] at hresult'
    rw [hchildren] at hbelow
    rw [hchildren', ← hjoined] at hbelow'
    refine .inr ⟨hresult, hresult', ⟨content, ?_, ?_⟩, _, _, hnotes, hnotes', hclasses⟩
    · rw [Tree.children_bare, List.map_map] at hbelow
      exact hbelow
    · rw [Tree.children_bare, List.map_map] at hbelow'
      exact hbelow'

set_option maxRecDepth 2000 in
/-- A wrapper that opens a scope at the root of the model, in another scope. -/
theorem scopes_compose_absolute : ∃ d d' a a',
    Document.parse "<p data-object=\".user\">by <b data-text=\"name\"></b></p>" = .ok d ∧
    Document.parse "<p>by <b data-text=\".user.name\"></b></p>" = .ok d' ∧
    d.find? ⟨1⟩ = some a ∧ d'.find? ⟨1⟩ = some a' ∧
      let c : Setting := ⟨{}, .map [("user", .map [("name", .string "Ann")])]⟩
      let one := c.inject 8 ⟨1⟩ (.list []) false { document := d }
      let other := c.inject 8 ⟨1⟩ (.list []) false { document := d' }
      one.2.document.markup = "<p data-object=\".user\">by <b data-text=\"name\">Ann</b></p>" ∧
      other.2.document.markup = "<p>by <b data-text=\".user.name\">Ann</b></p>" ∧
      ((∃ f g, one.1 = .error (.fault f) ∧ other.1 = .error (.fault g) ∧
        f.faultClass = .assertion ∧ g.faultClass = .assertion) ∨
      one.1 = .ok () ∧ other.1 = .ok () ∧
        (∃ content, one.2.below? ⟨1⟩ = some (a.children.map fun t => t.bare.setChildren content) ∧
          other.2.below? ⟨1⟩ = some (a'.children.map fun t => t.bare.setChildren content)) ∧
        ∃ noted noted', one.2.diagnostics = [] ++ noted ∧ other.2.diagnostics = [] ++ noted' ∧
          noted.map Fault.faultClass = noted'.map Fault.faultClass) := by
  let joined : Tree Unit := .element () "p" [] false
    [.text () "by ", .element () "b" [("data-text", ".user.name")] false []]
  let c : Setting := ⟨{}, .map [("user", .map [("name", .string "Ann")])]⟩
  obtain ⟨d, hd, ⟨a, -, inner, -, hn, hinner, hjump, hopens, hfills, hshows, hjoined⟩, hmarkup⟩ :=
    exists_ok_of_check
      (Document.parse "<p data-object=\".user\">by <b data-text=\"name\"></b></p>")
      (p := fun d => (∃ a ∈ d.attached, ∃ inner ∈ d.attached, d.find? ⟨1⟩ = some a ∧
        a.elements = [inner] ∧ (∀ t ∈ a.nodes, t.head.JumpFree Dialect.standard) ∧
        a.head.FilledBy Dialect.standard "data-object" .object ".user" ∧
        inner.head.FilledOnlyBy Dialect.standard "data-text" .text "name" ∧
        (a.head.showsValue Dialect.standard = false ∧ inner.elements = []) ∧
        joined = a.bare.joined "data-object" "data-text" (".user" ++ "." ++ "name")) ∧
        (c.inject 8 ⟨1⟩ (.list []) false { document := d }).2.document.markup =
          "<p data-object=\".user\">by <b data-text=\"name\">Ann</b></p>")
      (by decide +kernel)
  obtain ⟨d', hd', ⟨a', -, hn', hbare⟩, hmarkup'⟩ :=
    exists_ok_of_check (Document.parse "<p>by <b data-text=\".user.name\"></b></p>")
      (p := fun d => (∃ a ∈ d.attached, d.find? ⟨1⟩ = some a ∧ a.bare = joined) ∧
        (c.inject 8 ⟨1⟩ (.list []) false { document := d }).2.document.markup =
          "<p>by <b data-text=\".user.name\">Ann</b></p>")
      (by decide +kernel)
  have hfirst : Path.parse ".user" = .ok (.absolute ["user"]) := by rfl
  have hsecond : Path.parse "name" = .ok (.relative ["name"]) := by rfl
  have hscope : (Value.list []).isComposite = true := rfl
  have hcompose := scopes_compose (c := c) (.of_parse hd hn) (.of_parse hd' hn')
    (hbare.trans hjoined) rfl rfl hjump hopens hshows.1 hinner hfills ⟨nofun, nofun⟩
    (fun _ => hshows.2) hfirst (by decide) hsecond hscope 8 false
  exact ⟨d, d', a, a', hd, hd', hn, hn', hmarkup, hmarkup', hcompose⟩

end TreeTemplate
