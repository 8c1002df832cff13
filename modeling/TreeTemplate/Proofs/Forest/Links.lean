import TreeTemplate.Proofs.Forest.Operations

/-!
# Parents and children in a forest

Which node stands directly above another one. In a document in which every identity is used once,
the parent of a node is the element whose hole it fills, and the node at the top of a tree has none.

Main statements:

* `Has.parent?`, `Has.parent?_top` — the parent of a child and of a node at the top of a tree;
* `exists_plug_of_parentIn?` — a node that has a parent stands below it;
* `Has.child` — what stands below a node that is found is found itself.
-/

namespace TreeTemplate

namespace Tree

variable {n m : NodeId} {t u : Tree NodeId} {ts us : List (Tree NodeId)} {C : Context}
  {tag : String} {attrs : List (String × String)} {hidden : Bool}

/-- A tree that does not have an identity does not begin with it. -/
lemma label_ne_of_notMem (h : n ∉ releasedOf ts) (ht : t ∈ ts) : t.label ≠ n := fun e =>
  h (released_subset_of_mem ht (e ▸ label_mem_released t))

/-- None of several trees that do not have an identity begins with it. -/
lemma any_label_eq_false (h : n ∉ releasedOf ts) : (ts.any fun t => t.label = n) = false := by
  simpa using fun t ht => label_ne_of_notMem h ht

mutual

/-- A node that is not in a tree has no parent in it. -/
lemma parent?_of_notMem {t : Tree NodeId} (h : n ∉ t.released) : t.parent? n = none := by
  cases t with
  | element m tag attrs hidden children =>
    simp only [released_element, List.mem_append, not_or] at h
    simp [parent?, any_label_eq_false h.1, parentIn?_of_notMem h.1]
  | text m content => rfl

/-- A node that is not in any of several trees has no parent in them. -/
lemma parentIn?_of_notMem {ts : List (Tree NodeId)} (h : n ∉ releasedOf ts) :
    parentIn? n ts = none := by
  cases ts with
  | nil => rfl
  | cons t ts =>
    simp only [releasedOf_cons, List.mem_append, not_or] at h
    simp only [parentIn?, parentIn?_of_notMem h.2, parent?_of_notMem h.1]

end

/-- The parent of a node is found in the one tree that can have it. -/
lemma parentIn?_middle (ht : n ∉ releasedOf ts) (hu : n ∉ releasedOf us) (t : Tree NodeId) :
    parentIn? n (ts ++ t :: us) = t.parent? n := by
  induction ts with
  | nil => simp only [List.nil_append, parentIn?, parentIn?_of_notMem hu]
  | cons u ts ih =>
    simp only [releasedOf_cons, List.mem_append, not_or] at ht
    simp only [List.cons_append, parentIn?, ih ht.2, parent?_of_notMem ht.1]
    cases t.parent? n <;> rfl

/-- Of trees in two parts the last part is searched first. -/
lemma parentIn?_append (n : NodeId) (first later : List (Tree NodeId)) :
    parentIn? n (first ++ later) = (parentIn? n later).or (parentIn? n first) := by
  induction first with
  | nil => simp [parentIn?]
  | cons t first ih =>
    simp only [List.cons_append, parentIn?, ih]
    cases parentIn? n later <;> rfl

/-- The parent of a node below the top of the tree that fills a hole is found in that tree. -/
lemma parent?_plug (h : n ∉ C.ids) (ht : t.label ≠ n) : (C.plug t).parent? n = t.parent? n := by
  induction C generalizing t with
  | top => rfl
  | inside outer label tag attrs hidden before after ih =>
    simp only [Context.ids, List.mem_append, List.mem_cons, not_or] at h
    obtain ⟨⟨hbefore, hafter⟩, hlabel, houter⟩ := h
    rw [Context.plug, ih houter (by exact Ne.symm hlabel)]
    simp [parent?, parentIn?_middle hbefore hafter, any_label_eq_false hbefore,
      any_label_eq_false hafter, ht]

/-- The parent of what fills a hole is the element that has the hole. -/
lemma parent?_plug_child (h : t.label ∉ (Context.inside C m tag attrs hidden ts us).ids) :
    (C.plug (.element m tag attrs hidden (ts ++ t :: us))).parent? t.label = some m := by
  simp only [Context.ids, List.mem_append, List.mem_cons, not_or] at h
  obtain ⟨-, hm, hC⟩ := h
  rw [parent?_plug hC (by exact Ne.symm hm)]
  simp [parent?]

mutual

/-- A node that has a parent in a tree stands below it. -/
lemma exists_plug_of_parent? {t : Tree NodeId} (h : t.parent? n = some m) :
    ∃ (C : Context) (tag : String) (attrs : List (String × String)) (hidden : Bool)
      (children : List (Tree NodeId)), t = C.plug (.element m tag attrs hidden children) ∧
        n ∈ children.map label := by
  cases t with
  | element l tag attrs hidden children =>
    simp only [parent?] at h
    split at h
    · rename_i hany
      cases h
      simp only [List.any_eq_true, decide_eq_true_eq] at hany
      exact ⟨.top, tag, attrs, hidden, children, rfl, List.mem_map.2 hany⟩
    · obtain ⟨before, C, after, tag', attrs', hidden', children', rfl, hn⟩ :=
        exists_plug_of_parentIn? h
      refine ⟨(Context.inside .top l tag attrs hidden before after).comp C, tag', attrs', hidden',
        children', ?_, hn⟩
      rw [Context.plug_comp]
      rfl
  | text l content => cases h

/-- A node that has a parent in a forest stands below it in one of the trees. -/
lemma exists_plug_of_parentIn? {ts : List (Tree NodeId)} (h : parentIn? n ts = some m) :
    ∃ (before : List (Tree NodeId)) (C : Context) (after : List (Tree NodeId)) (tag : String)
      (attrs : List (String × String)) (hidden : Bool) (children : List (Tree NodeId)),
      ts = before ++ C.plug (.element m tag attrs hidden children) :: after ∧
        n ∈ children.map label := by
  cases ts with
  | nil => cases h
  | cons t ts =>
    simp only [parentIn?] at h
    split at h
    · rename_i found hfound
      cases h
      obtain ⟨before, C, after, tag, attrs, hidden, children, rfl, hn⟩ :=
        exists_plug_of_parentIn? hfound
      exact ⟨t :: before, C, after, tag, attrs, hidden, children, rfl, hn⟩
    · obtain ⟨C, tag, attrs, hidden, children, rfl, hn⟩ := exists_plug_of_parent? h
      exact ⟨[], C, ts, tag, attrs, hidden, children, rfl, hn⟩

end

/-! ## Children in a tree -/

/-- The children of an element have some of the identities below it. -/
lemma map_label_sublist (ts : List (Tree NodeId)) : (ts.map label).Sublist (releasedOf ts) := by
  induction ts with
  | nil => exact .slnil
  | cons t ts ih =>
    exact (List.singleton_sublist.2 (label_mem_released t)).append ih

/-- A child has fewer nodes than the node that it stands below. -/
lemma length_released_lt (h : u ∈ t.children) : u.released.length < t.released.length := by
  cases t with
  | element m tag attrs hidden children =>
    obtain ⟨before, after, rfl⟩ := List.append_of_mem (show u ∈ children from h)
    simp only [released_element, releasedOf_append, releasedOf_cons, List.length_append,
      List.length_singleton]
    omega
  | text m content => cases h

/-! ## The top of a filled context -/

/-- What fills a hole can be exchanged for a node of the same identity and kind without the top of
the tree becoming another one. -/
lemma plug_top (C : Context) (hl : u.label = t.label) (he : u.isElement = t.isElement) :
    (C.plug u).label = (C.plug t).label ∧ (C.plug u).isElement = (C.plug t).isElement := by
  induction C generalizing t u with
  | top => exact ⟨hl, he⟩
  | inside outer label tag attrs hidden before after ih => exact ih rfl rfl

end Tree

namespace Document

variable {d : Document} {n : NodeId} {t u : Tree NodeId} {ts us rest : List (Tree NodeId)}
  {C : Tree.Context} {m : NodeId} {tag : String} {attrs : List (String × String)} {hidden : Bool}

namespace Has

/-- What is found fills a context in one of the trees. -/
lemma exists_plug (h : d.Has ts) (hn : d.find? n = some t) :
    ∃ (C : Tree.Context) (rest : List (Tree NodeId)), (C.plug t :: rest).Perm ts ∧
      d.Has (C.plug t :: rest) ∧ t.label = n := by
  obtain ⟨before, C, after, e⟩ := Tree.exists_plug_of_findIn? hn
  have hp : (C.plug t :: (before ++ after)).Perm ts :=
    (List.perm_middle.symm.trans (e ▸ .refl _)).trans h.trees
  exact ⟨C, before ++ after, hp, h.perm hp.symm, Tree.findIn?_label hn⟩

/-- A node that the document does not have is not found. -/
lemma find?_eq_none (h : d.Has ts) (hn : n ∉ Tree.releasedOf ts) : d.find? n = none :=
  Tree.findIn?_of_notMem fun hm => hn ((Tree.releasedOf_perm h.trees).mem_iff.1 hm)

/-- An identity that is used is that of a node that is found. -/
lemma find?_isSome (h : d.Has ts) : (d.find? n).isSome ↔ n ∈ Tree.releasedOf ts := by
  refine ⟨fun hs => ?_, fun hn => ?_⟩
  · obtain ⟨t, ht⟩ := Option.isSome_iff_exists.1 hs
    obtain ⟨C, rest, hp, -, rfl⟩ := h.exists_plug ht
    refine (Tree.releasedOf_perm hp).mem_iff.1 ?_
    rw [Tree.releasedOf_cons, List.mem_append]
    exact .inl (mem_plug (Tree.label_mem_released t))
  · obtain ⟨t, ht⟩ := Tree.exists_findIn? ((Tree.releasedOf_perm h.trees).mem_iff.2 hn)
    exact Option.isSome_iff_exists.2 ⟨t, ht⟩

/-- The element around a child is its parent. -/
lemma parent? (h : d.Has (C.plug (.element m tag attrs hidden (ts ++ t :: us)) :: rest)) :
    d.parent? t.label = some m := by
  have h' : d.Has ((Tree.Context.inside C m tag attrs hidden ts us).plug t :: rest) := h
  obtain ⟨before, after, e, -, hnot⟩ := h'.exists_middle
  have hn := Tree.label_mem_released t
  obtain ⟨hbefore, hafter⟩ := hnot _ (mem_plug hn)
  rw [Document.parent?, e, Tree.parentIn?_middle hbefore hafter]
  exact Tree.parent?_plug_child (h'.notMem_ids hn)

/-- A node at the top of a tree has no parent. -/
lemma parent?_top (h : d.Has (t :: rest)) : d.parent? t.label = none := by
  obtain ⟨before, after, e, -, hnot⟩ := h.exists_middle
  obtain ⟨hbefore, hafter⟩ := hnot _ (Tree.label_mem_released t)
  rw [Document.parent?, e, Tree.parentIn?_middle hbefore hafter]
  cases t with
  | element m tag attrs hidden children =>
    have hm : m ∉ Tree.releasedOf children := by
      have hnodup := h.nodup_released
      rw [Tree.released_element, List.nodup_append] at hnodup
      exact fun hm => hnodup.2.2 m hm m (by simp) rfl
    rw [show (Tree.element m tag attrs hidden children).label = m from rfl, Tree.parent?,
      if_neg (by simpa using fun t ht => Tree.label_ne_of_notMem hm ht),
      Tree.parentIn?_of_notMem hm]
  | text m content => rfl

/-- A node that has a parent is one of its children. -/
lemma of_parent? (h : d.Has ts) (hn : d.parent? n = some m) :
    ∃ t, d.find? m = some t ∧ n ∈ t.children.map Tree.label := by
  obtain ⟨before, C, after, tag, attrs, hidden, children, e, hmem⟩ :=
    Tree.exists_plug_of_parentIn? hn
  have hp : d.Has (C.plug (.element m tag attrs hidden children) :: (before ++ after)) :=
    h.perm ((h.trees.symm.trans (e ▸ .refl _)).trans List.perm_middle)
  exact ⟨_, hp.find?, hmem⟩

/-- What stands below a node that is found is found itself, and the node is its parent. -/
lemma child (h : d.Has ts) (hn : d.find? n = some t) (hu : u ∈ t.children) :
    d.find? u.label = some u ∧ d.parent? u.label = some n := by
  obtain ⟨C, rest, -, hp, rfl⟩ := h.exists_plug hn
  cases t with
  | element m tag attrs hidden children =>
    obtain ⟨before, after, rfl⟩ := List.append_of_mem (show u ∈ children from hu)
    exact ⟨(show d.Has ((Tree.Context.inside C m tag attrs hidden before after).plug u :: rest)
      from hp).find?, hp.parent?⟩
  | text m content => cases hu

end Has

end Document

end TreeTemplate
