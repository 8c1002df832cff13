import TreeTemplate.Document.Operation
import TreeTemplate.Proofs.Documents.WellFormed
import TreeTemplate.Proofs.Forest.Restyles
import TreeTemplate.Proofs.Markup.Trees

/-!
# Operations on documents

The operations that change a document from outside, where they are done on a forest. An operation is
in order when the nodes that it is given are there, the document node is neither removed nor put
below another node, and no node is put below itself. A forest has no room for nodes below a text, so
what fills a node is given an element. Nothing keeps a caller from giving it a text; what is left
then is said of the arena in which the nodes are kept.

Every operation that is in order can be done, and it leaves a well-formed document.

Main statements:

* `Operation.orderly` — what one operation leaves;
* `operations_wellFormed` — a document stays well formed under operations one after another.
-/

namespace TreeTemplate

namespace Operation

open Document (root)

/-- Whether an operation is in order on a forest: its nodes are there, the document node stays where
it is, no node is put below itself, and none below a text. -/
def InOrder (d : Document) : Operation → Prop
  | setAttr n _ _ | removeAttr n _ | addClass n _ | removeClass n _ | removeChildren n | detach n
  | clone n _ | removeText n | setHidden n _ => (d.find? n).isSome
  | append parent child => (d.find? parent).any Tree.isElement ∧ child ≠ root ∧
      (d.find? child).any fun t => (t.find? parent).isNone
  | remove n => n ≠ root ∧ (d.find? n).isSome
  | setText n _ | setMarkup n _ => (d.find? n).any Tree.isElement
  | create _ => True

/-- Whether operations are in order, each where those before it have led to. -/
def AllInOrder (d : Document) : List Operation → Prop
  | [] => True
  | op :: ops => op.InOrder d ∧ ∀ d' ∈ op.run? d, AllInOrder d' ops

/-- Whether an operation is in order can be seen from the nodes that are found. -/
instance (d : Document) (op : Operation) : Decidable (op.InOrder d) :=
  match op with
  | setAttr n _ _ | removeAttr n _ | addClass n _ | removeClass n _ | removeChildren n | detach n
  | clone n _ | removeText n | setHidden n _ =>
    inferInstanceAs (Decidable ((d.find? n).isSome = true))
  | append _ child => inferInstanceAs (Decidable (_ ∧ child ≠ root ∧ _))
  | remove n => inferInstanceAs (Decidable (n ≠ root ∧ _))
  | setText n _ | setMarkup n _ =>
    inferInstanceAs (Decidable ((d.find? n).any Tree.isElement = true))
  | create _ => .isTrue trivial

/-- Whether operations are in order can be seen by running them. -/
instance decidableAllInOrder : ∀ (d : Document) (ops : List Operation),
    Decidable (AllInOrder d ops)
  | _, [] => .isTrue trivial
  | d, op :: ops =>
    have (d' : Document) : Decidable (AllInOrder d' ops) := decidableAllInOrder d' ops
    inferInstanceAs (Decidable (op.InOrder d ∧ ∀ d' ∈ op.run? d, AllInOrder d' ops))

end Operation

namespace Tree

variable {ι : Type} {n p : NodeId} {t u taken : Tree NodeId} {ts us : List (Tree NodeId)}

/-! ## Taking a node out -/

mutual

/-- What is taken out has the identity that was asked for. -/
lemma label_of_takeBelow? {t u taken : Tree NodeId} (h : t.takeBelow? n = some (taken, u)) :
    taken.label = n := by
  cases t with
  | element m tag attrs hidden children =>
    simp only [takeBelow?, Option.map_eq_some_iff, Prod.mk.injEq] at h
    obtain ⟨⟨taken', left⟩, htake, rfl, -⟩ := h
    exact label_of_takeIn? htake
  | text m content => cases h

/-- What is taken out of one of several trees has the identity that was asked for. -/
lemma label_of_takeIn? {ts us : List (Tree NodeId)} {taken : Tree NodeId}
    (h : takeIn? n ts = some (taken, us)) : taken.label = n := by
  cases ts with
  | nil => cases h
  | cons t ts =>
    simp only [takeIn?] at h
    split at h
    · rename_i taken' us' htake
      cases h
      exact label_of_takeIn? htake
    · split at h
      · rename_i hl
        cases h
        exact hl
      · simp only [Option.map_eq_some_iff, Prod.mk.injEq] at h
        obtain ⟨⟨taken', left⟩, htake, rfl, -⟩ := h
        exact label_of_takeBelow? htake

end

mutual

/-- Where a node was taken out, the other nodes are of the kind that they were. -/
lemma find?_of_takeBelow? {t u taken : Tree NodeId} (h : t.takeBelow? n = some (taken, u))
    (hp : p ∉ taken.released) : (u.find? p).map isElement = (t.find? p).map isElement := by
  cases t with
  | element m tag attrs hidden children =>
    simp only [takeBelow?, Option.map_eq_some_iff, Prod.mk.injEq] at h
    obtain ⟨⟨taken', left⟩, htake, rfl, rfl⟩ := h
    simp only [find?]
    split
    · rfl
    · exact findIn?_of_takeIn? htake hp
  | text m content => cases h

/-- Where a node was taken out of one of several trees, the other nodes are of the kind that they
were. -/
lemma findIn?_of_takeIn? {ts us : List (Tree NodeId)} {taken : Tree NodeId}
    (h : takeIn? n ts = some (taken, us)) (hp : p ∉ taken.released) :
    (findIn? p us).map isElement = (findIn? p ts).map isElement := by
  cases ts with
  | nil => cases h
  | cons t ts =>
    simp only [takeIn?] at h
    split at h
    · rename_i taken' us' htake
      cases h
      have ih := findIn?_of_takeIn? htake hp
      simp only [findIn?]
      revert ih
      cases findIn? p us' <;> cases findIn? p ts <;> simp
    · split at h
      · cases h
        simp only [findIn?, find?_of_notMem hp]
        cases findIn? p us <;> rfl
      · simp only [Option.map_eq_some_iff, Prod.mk.injEq] at h
        obtain ⟨⟨taken', left⟩, htake, rfl, rfl⟩ := h
        have ih := find?_of_takeBelow? htake hp
        simp only [findIn?]
        cases findIn? p ts with
        | some found => rfl
        | none => exact ih

end

/-! ## What begins with the document node -/

variable {C : Context}

/-- One of several trees begins with the document node also when what fills a context is exchanged
for what begins with the same node. -/
lemma rooted_exchange
    (h : ∃ v ∈ C.plug t :: ts, v.label = Document.root ∧ v.isElement = true)
    (hl : u.label = t.label) (he : u.isElement = t.isElement) :
    ∃ v ∈ C.plug u :: ts, v.label = Document.root ∧ v.isElement = true := by
  obtain ⟨hl', he'⟩ := plug_top C hl he
  rw [List.exists_mem_cons_iff] at h ⊢
  rwa [hl', he']

/-- Trees in which no element has two attributes of one name are such trees when what fills a
context is exchanged for such a tree. -/
lemma distinct_exchange (h : ∀ v ∈ C.plug t :: ts, v.Distinct) (hu : u.Distinct) :
    ∀ v ∈ C.plug u :: ts, v.Distinct := by
  obtain ⟨hplug, hts⟩ := List.forall_mem_cons.1 h
  exact List.forall_mem_cons.2 ⟨(distinct_plug hplug).2 u hu, hts⟩

end Tree

namespace Document

variable {d d' : Document} {n m p : NodeId} {t u : Tree NodeId} {ts us rest : List (Tree NodeId)}
  {C : Tree.Context} {tag : String} {attrs : List (String × String)} {hidden : Bool}
  {f : Tree NodeId → Tree NodeId}

/-- A node that is put below another one leaves the identities in use as they are. -/
lemma supply_append? (e : d.append? p n = some d') : d'.supply = d.supply := by
  simp only [Document.append?, Option.bind_eq_bind, Option.bind_eq_some_iff] at e
  obtain ⟨taken, -, found, -, e⟩ := e
  split at e
  · obtain ⟨trees, -, e⟩ := Option.bind_eq_some_iff.1 e
    cases e
    rfl
  · cases e

namespace Has

/-- What is taken out stands behind the other trees, where it can be taken from again. -/
lemma takeIn?_detach? (h : d'.Has (t :: rest)) (hd : d.detach? t.label = some d') :
    ∃ left, d' = { d with trees := left ++ [t] } ∧
      Tree.takeIn? t.label d.trees = some (t, left) ∧
      Tree.takeIn? t.label d'.trees = some (t, left) := by
  obtain ⟨⟨taken, left⟩, htake, rfl⟩ := Option.map_eq_some_iff.1 hd
  have hl := Tree.label_of_takeIn? htake
  obtain rfl : taken = t := by
    have hfind := (show Document.Has _ (Tree.Context.top.plug t :: rest) from h).find?
    rw [Document.find?, Tree.findIn?_append, ← hl] at hfind
    simpa [Tree.findIn?] using hfind
  have hnodup := (h.perm h.trees.symm).sound.nodup
  rw [Tree.releasedOf_append, List.nodup_append] at hnodup
  have hleft : taken.label ∉ Tree.releasedOf left := fun hm =>
    hnodup.2.2 _ hm taken.label (by simpa using Tree.label_mem_released taken) rfl
  refine ⟨left, rfl, htake, ?_⟩
  have hright : taken.label ∉ Tree.releasedOf ([] : List (Tree NodeId)) := List.not_mem_nil
  rw [Tree.takeIn?_middle_self hleft hright rfl, List.append_nil]

/-- A node is removed as it is once it has been taken out. -/
lemma remove?_detach? (h : d'.Has (t :: rest)) (hd : d.detach? t.label = some d') :
    d.remove? t.label = d'.remove? t.label := by
  obtain ⟨left, rfl, htake, htake'⟩ := h.takeIn?_detach? hd
  rw [Document.remove?, Document.remove?, htake, htake']

/-- A node is put into another one as it is once it has been taken out. -/
lemma append?_detach? (h : d'.Has (t :: rest)) (hd : d.detach? t.label = some d') (p : NodeId) :
    d.append? p t.label = d'.append? p t.label := by
  obtain ⟨left, rfl, htake, htake'⟩ := h.takeIn?_detach? hd
  rw [Document.append?, Document.append?, htake, htake']

/-- An element that is not in a tree that is taken out is still there then, in one of the other
trees. -/
lemma exists_plug_detach? {q : Tree NodeId} (h : d'.Has (t :: rest))
    (hd : d.detach? t.label = some d') (hp : d.find? p = some q) (hq : q.isElement = true)
    (hbelow : t.find? p = none) :
    ∃ (C : Tree.Context) (tag : String) (attrs : List (String × String)) (hidden : Bool)
      (children others : List (Tree NodeId)),
      rest.Perm (C.plug (.element p tag attrs hidden children) :: others) := by
  obtain ⟨left, rfl, htake, -⟩ := h.takeIn?_detach? hd
  have hp' : p ∉ t.released := fun hm => by
    obtain ⟨u, hu⟩ := Tree.exists_find? hm
    rw [hbelow] at hu
    cases hu
  obtain ⟨u, hu, helement⟩ : ∃ u, Tree.findIn? p left = some u ∧ u.isElement = true := by
    have hkind := Tree.findIn?_of_takeIn? htake hp'
    rw [show Tree.findIn? p d.trees = some q from hp, Option.map_some, hq] at hkind
    exact Option.map_eq_some_iff.1 hkind
  obtain ⟨before, C, after, rfl⟩ := Tree.exists_plug_of_findIn? hu
  obtain rfl : u.label = p := Tree.findIn?_label hu
  have hrest : (before ++ C.plug u :: after).Perm rest :=
    ((List.perm_append_singleton t _).symm.trans h.trees).cons_inv
  cases u with
  | text m content => cases helement
  | element m tag attrs hidden children =>
    exact ⟨C, tag, attrs, hidden, children, before ++ after, hrest.symm.trans List.perm_middle⟩

end Has

namespace Orderly

/-- An exchange of one node in its place keeps a document in order. -/
lemma exchange (h : d.Orderly (C.plug t :: rest)) (h' : d'.Has (C.plug u :: rest))
    (hl : u.label = t.label) (he : u.isElement = t.isElement) (hu : u.Distinct) :
    d'.Orderly (C.plug u :: rest) where
  toHas := h'
  rooted := Tree.rooted_exchange h.rooted hl he
  distinct := Tree.distinct_exchange h.distinct hu

/-- A change of a node itself keeps a document in order. -/
lemma update? (h : d.Orderly ts) (hn : d.find? n = some t) (hf : t.Restyles (f t))
    (hd : t.Distinct → (f t).Distinct) : ∃ d' us, d.update? n f = some d' ∧ d'.Orderly us := by
  obtain ⟨C, rest, h', rfl⟩ := h.exists_plug hn
  obtain ⟨d', e, h''⟩ := h'.toHas.update? (f := f) (hf.released ▸ .refl _)
  exact ⟨d', _, e, h'.exchange h'' hf.label hf.isElement (hd (h.distinct_of_find? hn))⟩

/-- Taking children away keeps a document in order. -/
lemma removeChildrenWhere? (h : d.Orderly ts) (hn : d.find? n = some t)
    (test : Tree NodeId → Bool) :
    ∃ d' us, d.removeChildrenWhere? n test = some d' ∧ d'.Orderly us := by
  obtain ⟨C, rest, h', rfl⟩ := h.exists_plug hn
  have hd := h.distinct_of_find? hn
  cases t with
  | element m tag attrs hidden children =>
    obtain ⟨d', e, h''⟩ := h'.toHas.removeChildrenWhere? test
    exact ⟨d', _, e, h'.exchange h'' rfl rfl (Tree.distinct_element.2
      ⟨(Tree.distinct_element.1 hd).1,
        fun u hu => (Tree.distinct_element.1 hd).2 u (List.mem_filter.1 hu).1⟩)⟩
  | text m content =>
    -- nothing is below a text, so the document is as before
    obtain ⟨d', e, h''⟩ := h'.toHas.update? (f := fun t => t.setChildren []) (.refl _)
    refine ⟨{ d' with supply := d'.supply.give [] }, _, ?_, h'.exchange (u := .text m content)
      ⟨h''.trees, h''.sound⟩ rfl rfl hd⟩
    simp only [Document.removeChildrenWhere?, hn, Option.bind_eq_bind, Option.bind_some,
      Tree.children, List.partition_eq_filter_filter, List.filter_nil, e]
    rfl

/-- New trees that are planted keep a document in order. -/
lemma plant {ι : Type} (h : d.Orderly ts) {t : Tree ι} (ht : t.Distinct) :
    ∃ us, (d.plant t).2.Orderly us := by
  obtain ⟨u, d', e, hbare, h'⟩ := h.toHas.plant t
  refine ⟨u :: ts, ?_⟩
  rw [e]
  obtain ⟨v, hv, hroot⟩ := h.rooted
  refine ⟨h', ⟨v, List.mem_cons_of_mem _ hv, hroot⟩, fun w hw => ?_⟩
  rcases List.mem_cons.1 hw with rfl | hw
  · rw [← Tree.distinct_relabel fun _ => ()] at ht ⊢
    exact (show w.relabel _ = t.relabel _ from hbare) ▸ ht
  · exact h.distinct w hw

/-- Planted trees in the place of everything below an element keep a document in order. -/
lemma fill {planted : List (Tree NodeId)} {trees : List (Tree Unit)}
    (h : d.Orderly (C.plug (.element m tag attrs hidden ts) :: rest))
    (h' : d'.Has (C.plug (.element m tag attrs hidden planted) :: rest))
    (hbare : Tree.relabelAll (fun _ => ()) planted = Tree.relabelAll (fun _ => ()) trees)
    (htrees : ∀ t ∈ trees, t.Distinct) :
    d'.Orderly (C.plug (.element m tag attrs hidden planted) :: rest) := by
  obtain ⟨hattrs, -⟩ := Tree.distinct_element.1
    (Tree.distinct_plug (h.distinct _ List.mem_cons_self)).1
  refine h.exchange h' rfl rfl (Tree.distinct_element.2 ⟨hattrs, fun u hu => ?_⟩)
  rw [Stocked.relabelAll_eq_map, Stocked.relabelAll_eq_map] at hbare
  obtain ⟨t, ht, e⟩ := List.mem_map.1 (hbare ▸ List.mem_map_of_mem hu)
  rw [← Tree.distinct_relabel fun _ => ()] at *
  exact e ▸ (Tree.distinct_relabel _ t).2 (htrees t ht)

/-- A node that is taken out becomes the last tree of a document in order. -/
lemma detach? (h : d.Orderly ts) (hn : d.find? n = some t) :
    ∃ d' rest, d.detach? n = some d' ∧ d'.Orderly (t :: rest) := by
  obtain ⟨C, rest, h', rfl⟩ := h.exists_plug hn
  cases C with
  | top =>
    obtain ⟨d', e, h''⟩ := h'.toHas.detach?_top
    exact ⟨d', rest, e, h'', h'.rooted, h'.distinct⟩
  | inside outer m tag attrs hidden before after =>
    have hmid : d.Orderly
        (outer.plug (.element m tag attrs hidden (before ++ t :: after)) :: rest) :=
      h'
    obtain ⟨d', e, h''⟩ := Has.detach? hmid.toHas
    obtain ⟨hd, -⟩ := Tree.distinct_plug (hmid.distinct _ List.mem_cons_self)
    obtain ⟨hattrs, hchildren⟩ := Tree.distinct_element.1 hd
    have hleft : (Tree.element m tag attrs hidden (before ++ after)).Distinct := by
      refine Tree.distinct_element.2 ⟨hattrs, fun u hu => hchildren u ?_⟩
      rcases List.mem_append.1 hu with hu | hu <;> simp [hu]
    exact ⟨d', _, e, h''.perm (List.Perm.swap ..),
      List.exists_mem_cons_of_exists (Tree.rooted_exchange hmid.rooted rfl rfl),
      List.forall_mem_cons.2
        ⟨hchildren t (by simp), Tree.distinct_exchange hmid.distinct hleft⟩⟩

/-- A node that is removed leaves a document in order. -/
lemma remove? (h : d.Orderly ts) (hn : d.find? n = some t) (hroot : n ≠ root) :
    ∃ d' us, d.remove? n = some d' ∧ d'.Orderly us := by
  obtain ⟨d₁, rest, e, h₁⟩ := h.detach? hn
  obtain rfl : t.label = n := Tree.findIn?_label hn
  obtain ⟨d', e', h'⟩ := h₁.toHas.remove?
  refine ⟨d', rest, (h₁.toHas.remove?_detach? e).trans e', h', ?_,
    (List.forall_mem_cons.1 h₁.distinct).2⟩
  exact ((List.exists_mem_cons_iff _ _ _).1 h₁.rooted).resolve_left fun ht => hroot ht.1

/-- A node that is put below an element leaves a document in order. -/
lemma append? {q : Tree NodeId} (h : d.Orderly ts) (hn : d.find? n = some t) (hroot : n ≠ root)
    (hp : d.find? p = some q) (hq : q.isElement = true) (hbelow : t.find? p = none) :
    ∃ d' us, d.append? p n = some d' ∧ d'.Orderly us := by
  obtain ⟨d₁, rest, e, h₁⟩ := h.detach? hn
  obtain rfl : t.label = n := Tree.findIn?_label hn
  obtain ⟨C, tag, attrs, hidden, children, others, hp⟩ :=
    h₁.toHas.exists_plug_detach? e hp hq hbelow
  have h₂ := h₁.perm (hp.cons t)
  obtain ⟨d', e', h'⟩ := h₂.toHas.append?
  obtain ⟨ht, hdistinct⟩ := List.forall_mem_cons.1 h₂.distinct
  obtain ⟨hattrs, hchildren⟩ := Tree.distinct_element.1
    (Tree.distinct_plug (hdistinct _ List.mem_cons_self)).1
  have hothers := ((List.exists_mem_cons_iff _ _ _).1 h₂.rooted).resolve_left fun e => hroot e.1
  have hfilled : (Tree.element p tag attrs hidden (children ++ [t])).Distinct := by
    refine Tree.distinct_element.2 ⟨hattrs, fun u hu => ?_⟩
    rcases List.mem_append.1 hu with hu | hu
    · exact hchildren u hu
    · exact List.mem_singleton.1 hu ▸ ht
  exact ⟨d', _, (h₁.toHas.append?_detach? e p).trans e', h',
    Tree.rooted_exchange hothers rfl rfl, Tree.distinct_exchange hdistinct hfilled⟩

/-- New trees in the place of everything below an element leave a document in order. -/
lemma replaceChildren? (h : d.Orderly ts) (hn : d.find? n = some t) (ht : t.isElement = true)
    (trees : List (Tree Unit)) (htrees : ∀ t ∈ trees, t.Distinct) :
    ∃ d' us, d.replaceChildren? n trees = some d' ∧ d'.Orderly us := by
  obtain ⟨C, rest, h', rfl⟩ := h.exists_plug hn
  cases t with
  | text m content => cases ht
  | element m tag attrs hidden children =>
    obtain ⟨planted, d', e, hbare, h''⟩ := h'.toHas.replaceChildren? trees
    exact ⟨d', _, e, h'.fill h'' hbare htrees⟩

/-- Markup in the place of everything below an element leaves a document in order, whether it is
accepted or not. -/
lemma setMarkup? (h : d.Orderly ts) (hn : d.find? n = some t) (ht : t.isElement = true)
    (markup : String) :
    ∃ d' us, (d.setMarkup? n markup).map Prod.fst = some d' ∧ d'.Orderly us := by
  obtain ⟨C, rest, h', rfl⟩ := h.exists_plug hn
  cases t with
  | text m content => cases ht
  | element m tag attrs hidden children =>
    obtain ⟨planted, d', e, hbare, h''⟩ := h'.toHas.setMarkup? markup
    have hresult : (d.setMarkup? m markup).map Prod.fst = some d' := by
      rw [e]
      rfl
    cases hfault : (Markup.read markup).fault? with
    | none =>
      rw [hfault] at hbare
      exact ⟨d', _, hresult, h'.fill h'' hbare (Markup.distinct_read markup)⟩
    | some fault =>
      rw [hfault] at hbare
      have hnone : Tree.relabelAll (fun _ => ()) planted =
          Tree.relabelAll (fun _ => ()) ([] : List (Tree Unit)) := hbare
      exact ⟨d', _, hresult, h'.fill h'' hnone fun u hu => by cases hu⟩

end Orderly

/-- The trees of a new document are in order. -/
lemma orderly_ofTrees {trees : List (Tree Unit)} (h : ∀ t ∈ trees, t.Distinct) :
    (ofTrees trees).Orderly (ofTrees trees).trees := by
  let source : Tree (Option Unit) :=
    .element none "#document" [] false (trees.map (·.relabel some))
  have hdistinct : source.Distinct := Tree.distinct_element.2 ⟨List.nodup_nil, fun u hu => by
    obtain ⟨t, ht, rfl⟩ := List.mem_map.1 hu
    exact (Tree.distinct_relabel some t).2 (h t ht)⟩
  have e : ofTrees trees = ⟨[(Supply.plant {} source).1], (Supply.plant {} source).2⟩ := rfl
  rw [e]
  refine ⟨⟨.refl _, ?_⟩, ⟨_, List.mem_singleton_self _, rfl, rfl⟩, fun u hu => ?_⟩
  · simpa using Supply.Sound.plant Supply.Sound.empty source
  · have hbare : (Supply.plant {} source).1.relabel (fun _ => ()) = source.relabel fun _ => () :=
      Supply.plant_bare {} source
    rw [List.mem_singleton.1 hu, ← Tree.distinct_relabel fun _ => (), hbare]
    exact (Tree.distinct_relabel _ source).2 hdistinct

end Document

open Document (root)

variable {d : Document} {ts : List (Tree NodeId)}

/-- An operation that is in order can be done, and leaves a document in order. -/
theorem Operation.orderly {op : Operation} (h : d.Orderly ts) (hop : op.InOrder d) :
    ∃ d' us, op.run? d = some d' ∧ d'.Orderly us := by
  cases op with
  | setAttr n name value =>
    obtain ⟨t, hn⟩ := Option.isSome_iff_exists.1 hop
    exact h.update? hn (t.restyles_mapAttrs _) (·.setAttr name value)
  | removeAttr n name =>
    obtain ⟨t, hn⟩ := Option.isSome_iff_exists.1 hop
    exact h.update? hn (t.restyles_mapAttrs _) (·.removeAttr name)
  | addClass n name =>
    obtain ⟨t, hn⟩ := Option.isSome_iff_exists.1 hop
    exact h.update? hn (t.restyles_addClass name) (·.addClass name)
  | removeClass n name =>
    obtain ⟨t, hn⟩ := Option.isSome_iff_exists.1 hop
    exact h.update? hn (t.restyles_removeClass name) (·.removeClass name)
  | append parent child =>
    obtain ⟨hparent, hroot, hchild⟩ := hop
    obtain ⟨q, hp, hq⟩ := (Option.any_eq_true _ _).1 hparent
    obtain ⟨t, hn, hbelow⟩ := (Option.any_eq_true _ _).1 hchild
    exact h.append? hn hroot hp hq (Option.isNone_iff_eq_none.1 hbelow)
  | removeChildren n =>
    obtain ⟨t, hn⟩ := Option.isSome_iff_exists.1 hop
    exact h.removeChildrenWhere? hn _
  | detach n =>
    obtain ⟨t, hn⟩ := Option.isSome_iff_exists.1 hop
    obtain ⟨d', rest, e, h'⟩ := h.detach? hn
    exact ⟨d', _, e, h'⟩
  | remove n =>
    obtain ⟨t, hn⟩ := Option.isSome_iff_exists.1 hop.2
    exact h.remove? hn hop.1
  | clone n deep =>
    obtain ⟨t, hn⟩ := Option.isSome_iff_exists.1 hop
    -- a copy has the attributes of the original, and may leave out what is below it
    have hd := h.distinct_of_find? hn
    obtain ⟨us, h'⟩ := h.plant (t := if deep then t else t.setChildren []) (by
      split
      · exact hd
      · exact hd.setChildren fun u hu => nomatch hu)
    exact ⟨_, us, by simp [run?, Document.clone?, hn], h'⟩
  | setText n content =>
    obtain ⟨t, hn, ht⟩ := (Option.any_eq_true _ _).1 hop
    exact h.replaceChildren? hn ht [.text () content] (by simp)
  | removeText n =>
    obtain ⟨t, hn⟩ := Option.isSome_iff_exists.1 hop
    exact h.removeChildrenWhere? hn _
  | setMarkup n markup =>
    obtain ⟨t, hn, ht⟩ := (Option.any_eq_true _ _).1 hop
    exact h.setMarkup? hn ht markup
  | create tag =>
    obtain ⟨us, h'⟩ := h.plant (t := .element () tag [] false []) (by simp)
    exact ⟨_, us, rfl, h'⟩
  | setHidden n hidden =>
    obtain ⟨t, hn⟩ := Option.isSome_iff_exists.1 hop
    exact h.update? hn (t.restyles_setHidden hidden) (·.setHidden hidden)

/-- Operations that are in order, one after another, can be done and leave a document in order. -/
lemma Operation.orderly_runAll? {ops : List Operation} (h : d.Orderly ts)
    (hops : Operation.AllInOrder d ops) :
    ∃ d' us, Operation.runAll? d ops = some d' ∧ d'.Orderly us := by
  induction ops generalizing d ts with
  | nil => exact ⟨d, ts, rfl, h⟩
  | cons op ops ih =>
    obtain ⟨d₁, us, e, h₁⟩ := op.orderly h hops.1
    rw [Operation.runAll?, e]
    exact ih h₁ (hops.2 d₁ e)

/-- An empty document and one that was read stay well formed under operations, and the operations
can all be done. -/
theorem operations_wellFormed {ops : List Operation}
    (hd : d = .empty ∨ ∃ markup, Document.parse markup = .ok d)
    (hops : Operation.AllInOrder d ops) :
    ∃ d', Operation.runAll? d ops = some d' ∧ d'.WellFormed := by
  have hstart : ∃ ts, d.Orderly ts := by
    rcases hd with rfl | ⟨markup, hparse⟩
    · exact ⟨_, Document.orderly_ofTrees fun t ht => nomatch ht⟩
    · obtain ⟨trees, hread, rfl⟩ := Document.parse_eq_ok.1 hparse
      obtain ⟨-, rfl⟩ := Markup.parse_eq_ok.1 hread
      exact ⟨_, Document.orderly_ofTrees (Markup.distinct_read markup)⟩
  obtain ⟨ts, h⟩ := hstart
  obtain ⟨d', us, e, h'⟩ := Operation.orderly_runAll? h hops
  exact ⟨d', e, h'.wellFormed⟩

end TreeTemplate
