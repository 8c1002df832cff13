import TreeTemplate.Proofs.Forest.Identities

/-!
# Trees with a hole

A context is a tree with a hole: what is around a node. Looking for an identity that the context
lacks, or changing or taking out the node with it, is looking for it in the tree that fills the
hole.

Main statements:

* `released_plug` — the identities of a filled context are those of the tree and of the context;
* `find?_plug`, `update?_plug`, `takeBelow?_plug` — an operation goes through to the hole;
* `exists_shows_of_findIn?` — what is found in a forest fills a context, and changing it is filling
  the context anew.
-/

namespace TreeTemplate.Tree

/-- A tree with a hole among the children of one of its elements. -/
inductive Context where
  /-- Nothing is around the hole. -/
  | top
  /-- The hole is between children of an element, which fills the hole of `outer`. -/
  | inside (outer : Context) (label : NodeId) (tag : String) (attrs : List (String × String))
    (hidden : Bool) (before after : List (Tree NodeId))

namespace Context

/-- The tree that fills the hole, with the context around it. -/
def plug : Context → Tree NodeId → Tree NodeId
  | top, t => t
  | inside outer label tag attrs hidden before after, t =>
    outer.plug (.element label tag attrs hidden (before ++ t :: after))

/-- The identities of the nodes around the hole. -/
def ids : Context → List NodeId
  | top => []
  | inside outer label _ _ _ before after =>
    releasedOf before ++ releasedOf after ++ label :: outer.ids

/-- A context whose hole is filled by another one. -/
def comp (outer : Context) : Context → Context
  | top => outer
  | inside inner label tag attrs hidden before after =>
    inside (outer.comp inner) label tag attrs hidden before after

/-- The identities of a context within an element are those of the siblings, of the element and of
what is around it. -/
lemma ids_inside (outer : Context) (label : NodeId) (tag : String)
    (attrs : List (String × String)) (hidden : Bool) (before after : List (Tree NodeId)) :
    (inside outer label tag attrs hidden before after).ids =
      releasedOf before ++ releasedOf after ++ label :: outer.ids :=
  rfl

/-- A tree in a context within a context is a tree in the two one after the other. -/
lemma plug_comp (outer inner : Context) (t : Tree NodeId) :
    (outer.comp inner).plug t = outer.plug (inner.plug t) := by
  induction inner generalizing t with
  | top => rfl
  | inside inner label tag attrs hidden before after ih => exact ih _

end Context

variable {n : NodeId} {t u : Tree NodeId} {ts us : List (Tree NodeId)}
  {f : Tree NodeId → Tree NodeId} {C : Context} {tag : String} {attrs : List (String × String)}
  {hidden : Bool}

/-- The identities of a filled context are those of the tree and those of the context. -/
lemma released_plug (C : Context) (t : Tree NodeId) :
    (C.plug t).released.Perm (t.released ++ C.ids) := by
  induction C generalizing t with
  | top => simp [Context.plug, Context.ids]
  | inside outer label tag attrs hidden before after ih =>
    refine (ih _).trans (List.perm_iff_count.2 fun n => ?_)
    simp only [released_element, releasedOf_append, releasedOf_cons, Context.ids,
      List.count_append, List.count_cons, List.count_nil]
    omega

/-- The identities of a tree in a context are those of the tree and those of the context. -/
lemma mem_released_plug {C : Context} : n ∈ (C.plug t).released ↔ n ∈ t.released ∨ n ∈ C.ids := by
  rw [(released_plug C t).mem_iff, List.mem_append]

/-- The top of a filled context is the tree itself or a node of the context. -/
lemma label_plug (C : Context) (t : Tree NodeId) :
    (C.plug t).label = t.label ∨ (C.plug t).label ∈ C.ids := by
  induction C generalizing t with
  | top => exact .inl rfl
  | inside outer label tag attrs hidden before after ih =>
    refine .inr ?_
    simp only [Context.ids, List.mem_append, List.mem_cons]
    exact .inr (ih _)

/-- The top of a filled context that is not empty is not the tree. -/
lemma label_plug_inside (h : t.label ∉ (C.inside n tag attrs hidden ts us).ids) :
    ((C.inside n tag attrs hidden ts us).plug t).label ≠ t.label := fun e => by
  have hlabel := label_plug C (.element n tag attrs hidden (ts ++ t :: us))
  rw [show C.plug (.element n tag attrs hidden (ts ++ t :: us)) =
    (C.inside n tag attrs hidden ts us).plug t from rfl, e] at hlabel
  simp only [Context.ids, List.mem_append, List.mem_cons, not_or] at h
  exact hlabel.elim h.2.1 h.2.2

/-! ## Operations go through to the hole -/

/-- A node that is not in the context is found in what fills it. -/
lemma find?_plug (h : n ∉ C.ids) (t : Tree NodeId) : (C.plug t).find? n = t.find? n := by
  induction C generalizing t with
  | top => rfl
  | inside outer label tag attrs hidden before after ih =>
    simp only [Context.ids, List.mem_append, List.mem_cons, not_or] at h
    obtain ⟨⟨hbefore, hafter⟩, hlabel, houter⟩ := h
    rw [Context.plug, ih houter]
    simp only [find?, if_neg (Ne.symm hlabel), findIn?_middle hbefore hafter]

/-- A node that is not in the context is changed in what fills it. -/
lemma update?_plug (h : n ∉ C.ids) (t : Tree NodeId) :
    (C.plug t).update? n f = (t.update? n f).map C.plug := by
  induction C generalizing t with
  | top => exact Option.map_id.symm ▸ rfl
  | inside outer label tag attrs hidden before after ih =>
    simp only [Context.ids, List.mem_append, List.mem_cons, not_or] at h
    obtain ⟨⟨hbefore, hafter⟩, hlabel, houter⟩ := h
    rw [Context.plug, ih houter]
    simp only [update?, if_neg (Ne.symm hlabel), updateIn?_middle hbefore hafter, Option.map_map]
    rfl

/-- A node that is not in the context is taken out of what fills it. -/
lemma takeBelow?_plug (h : n ∉ C.ids) (ht : t.label ≠ n) :
    (C.plug t).takeBelow? n = (t.takeBelow? n).map fun (taken, t) => (taken, C.plug t) := by
  induction C generalizing t with
  | top =>
    rw [Context.plug]
    cases t.takeBelow? n <;> rfl
  | inside outer label tag attrs hidden before after ih =>
    simp only [Context.ids, List.mem_append, List.mem_cons, not_or] at h
    obtain ⟨⟨hbefore, hafter⟩, hlabel, houter⟩ := h
    rw [Context.plug, ih houter (by exact Ne.symm hlabel)]
    simp only [takeBelow?, takeIn?_middle_below hbefore hafter ht, Option.map_map]
    rfl

/-- The child that fills the hole of an element is taken out of it. -/
lemma takeBelow?_plug_child {m : NodeId}
    (h : t.label ∉ (Context.inside C m tag attrs hidden ts us).ids) :
    (C.plug (.element m tag attrs hidden (ts ++ t :: us))).takeBelow? t.label =
      some (t, C.plug (.element m tag attrs hidden (ts ++ us))) := by
  simp only [Context.ids, List.mem_append, List.mem_cons, not_or] at h
  obtain ⟨⟨hts, hus⟩, hm, hC⟩ := h
  rw [takeBelow?_plug hC (by exact Ne.symm hm)]
  simp only [takeBelow?, takeIn?_middle_self hts hus rfl, Option.map_some]

/-! ## What is found fills a context -/

/-- A hole where an identity is looked for: a node with this identity that fills the hole is found
there, and is the one that is changed. -/
def Context.Shows (C : Context) (n : NodeId) : Prop :=
  ∀ u, u.label = n → (C.plug u).find? n = some u ∧
    ∀ f, (C.plug u).update? n f = some (C.plug (f u))

/-- A hole at the top is where any identity is looked for. -/
lemma Context.Shows.top (n : NodeId) : Context.top.Shows n := by
  rintro u rfl
  exact ⟨find?_self u, fun f => update?_self u⟩

mutual

/-- A node that is found in a tree fills a hole where its identity is looked for. -/
lemma exists_shows_of_find? {t : Tree NodeId} (h : t.find? n = some u) :
    ∃ C : Context, C.Shows n ∧ t = C.plug u := by
  cases t with
  | element m tag attrs hidden children =>
    simp only [find?] at h
    split at h
    · cases h
      exact ⟨.top, .top n, rfl⟩
    · rename_i hne
      obtain ⟨before, C, after, hshows, rfl⟩ := exists_shows_of_findIn? h
      refine ⟨(Context.inside .top m tag attrs hidden before after).comp C, fun v hv => ?_, ?_⟩
      · obtain ⟨hfind, hupdate⟩ := hshows v hv
        simp only [Context.plug_comp, Context.plug, find?, update?, if_neg hne, hfind, hupdate,
          Option.map_some, implies_true, and_self]
      · rw [Context.plug_comp]
        rfl
  | text m content =>
    simp only [find?] at h
    split at h
    · cases h
      exact ⟨.top, .top n, rfl⟩
    · cases h

/-- A node that is found in a forest fills a hole where its identity is looked for, in one of the
trees. -/
lemma exists_shows_of_findIn? {ts : List (Tree NodeId)} (h : findIn? n ts = some u) :
    ∃ (before : List (Tree NodeId)) (C : Context) (after : List (Tree NodeId)),
      (∀ v, v.label = n → findIn? n (before ++ C.plug v :: after) = some v ∧
        ∀ f, updateIn? n f (before ++ C.plug v :: after) =
          some (before ++ C.plug (f v) :: after)) ∧
      ts = before ++ C.plug u :: after := by
  cases ts with
  | nil => cases h
  | cons t ts =>
    simp only [findIn?] at h
    split at h
    · rename_i found hfound
      cases h
      obtain ⟨before, C, after, hshows, rfl⟩ := exists_shows_of_findIn? hfound
      refine ⟨t :: before, C, after, fun v hv => ?_, rfl⟩
      obtain ⟨hfind, hupdate⟩ := hshows v hv
      simp only [List.cons_append, findIn?, updateIn?, hfind, hupdate, implies_true, and_self]
    · rename_i hnone
      obtain ⟨C, hshows, rfl⟩ := exists_shows_of_find? h
      refine ⟨[], C, ts, fun v hv => ?_, rfl⟩
      obtain ⟨hfind, hupdate⟩ := hshows v hv
      simp only [List.nil_append, findIn?, updateIn?, hnone, updateIn?_of_findIn? hnone, hfind,
        hupdate, Option.map_some, implies_true, and_self]

end

/-- A node that is found in a tree fills a context. -/
lemma exists_plug_of_find? (h : t.find? n = some u) : ∃ C : Context, t = C.plug u := by
  obtain ⟨C, -, e⟩ := exists_shows_of_find? h
  exact ⟨C, e⟩

/-- A node that is found in a forest fills a context in one of its trees. -/
lemma exists_plug_of_findIn? (h : findIn? n ts = some u) :
    ∃ (before : List (Tree NodeId)) (C : Context) (after : List (Tree NodeId)),
      ts = before ++ C.plug u :: after := by
  obtain ⟨before, C, after, -, e⟩ := exists_shows_of_findIn? h
  exact ⟨before, C, after, e⟩

end TreeTemplate.Tree
