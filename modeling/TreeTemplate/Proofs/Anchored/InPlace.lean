import TreeTemplate.Proofs.Anchored.Walks
import TreeTemplate.Proofs.Content.Cleared

/-!
# Nodes that are kept in place

A step of a walk at an element takes nothing away but what stands below the element. An element that
stands elsewhere is still in the tree of the document node, stands where it stood, and keeps what is
stashed for it. So a step at an element finds every node that it looks up, and after it the same can
be said of the next step.

Main statements:

* `KeepsInPlace.of_plug` — a node of the tree of the document node takes the place of another one;
* `Safe.guarded` — an operator under the policy for faults;
* `stepWithin_closed` — what looks at an element is a step at it.
-/

namespace TreeTemplate.Walk

variable {α β : Type} {s s' s'' : State} {p q : NodeId → Prop} {n m : NodeId} {t u : Tree NodeId}
  {ts us rest rest' : List (Tree NodeId)} {C : Tree.Context} {tag tag' : String}
  {attrs attrs' : List (String × String)} {hidden hidden' : Bool}

/-! ## Elements in the tree of the document node -/

/-- An element is in the tree of the document node. -/
def Attached (s : State) (n : NodeId) : Prop :=
  ∃ t ∈ s.document.attached, t.label = n ∧ t.isElement = true

/-- The trees of a document whose document node is at the top of a tree stand in it. -/
lemma Anchored.has (hs : Anchored [Document.root] s) : ∃ ts, s.document.Has ts :=
  let ⟨ts, h⟩ := hs
  ⟨ts, h.document⟩

/-- The document node is the top of a tree. -/
lemma Anchored.exists_trunk (hs : Anchored [Document.root] s) :
    ∃ t rest, Anchors s [Document.root] (t :: rest) ∧ t.label = Document.root ∧
      t.isElement = true := by
  obtain ⟨ts, h⟩ := hs
  obtain ⟨t, rest, hp, hl, helement⟩ := h.exists_top (n := Document.root) (.inl (by simp))
  exact ⟨t, rest, h.perm hp, hl, helement⟩

/-- The elements in the tree of the document node are those of that tree. -/
lemma Anchors.attached_iff (h : Anchors s [Document.root] (C.plug t :: rest))
    (hroot : (C.plug t).label = Document.root) :
    Attached s n ↔ ∃ v ∈ (C.plug t).nodes, v.label = n ∧ v.isElement = true := by
  rw [Attached, h.document.attached_eq hroot]

namespace Attached

/-- An element in the tree of the document node stands in a context that begins there. -/
lemma exists_plug (hs : Anchored [Document.root] s) (h : Attached s n) :
    ∃ (C : Tree.Context) (tag : String) (attrs : List (String × String)) (hidden : Bool)
      (children rest : List (Tree NodeId)),
      Anchors s [Document.root] (C.plug (.element n tag attrs hidden children) :: rest) ∧
        (C.plug (.element n tag attrs hidden children)).label = Document.root := by
  obtain ⟨trunk, rest, htrunk, hroot, -⟩ := hs.exists_trunk
  obtain ⟨t, ht, hl, helement⟩ := (htrunk.attached_iff (C := .top) hroot).1 h
  obtain ⟨C, rfl⟩ := Tree.exists_plug_of_mem_nodes ht
  cases t with
  | element m tag attrs hidden children =>
    obtain rfl : m = n := hl
    exact ⟨C, tag, attrs, hidden, children, rest, htrunk, hroot⟩
  | text => cases helement

/-- An element in the tree of the document node is found. -/
lemma find? (hs : Anchored [Document.root] s) (h : Attached s n) :
    ∃ t, s.document.find? n = some t ∧ t.isElement = true := by
  obtain ⟨C, tag, attrs, hidden, children, rest, hplug, -⟩ := h.exists_plug hs
  exact ⟨_, hplug.document.find?, rfl⟩

/-- The parent of an element in the tree of the document node is in it. -/
lemma parent (hs : Anchored [Document.root] s) (h : Attached s n)
    (hparent : s.document.parent? n = some m) : Attached s m := by
  obtain ⟨C, tag, attrs, hidden, children, rest, hplug, hroot⟩ := h.exists_plug hs
  have hn : n ∈ (C.plug (.element n tag attrs hidden children)).released :=
    Document.Has.mem_plug (Tree.label_mem_released (.element n tag attrs hidden children))
  rw [hplug.document.parent?_eq hn] at hparent
  obtain ⟨D, tag', attrs', hidden', children', e, -⟩ := Tree.exists_plug_of_parent? hparent
  refine (hplug.attached_iff hroot).2 ⟨.element m tag' attrs' hidden' children', ?_, rfl, rfl⟩
  exact e ▸ Tree.nodes_subset_plug D _ (Tree.self_mem_nodes _)

/-- What is above an element in the tree of the document node is in it. -/
lemma of_above (hs : Anchored [Document.root] s) (h : Attached s n)
    (hm : s.document.Above m n) : Attached s m := by
  induction hm with
  | single hparent => exact h.parent hs hparent
  | tail _ hparent ih => exact ih (h.parent hs hparent)

/-- An element directly below one in the tree of the document node is in it. -/
lemma child (hs : Anchored [Document.root] s) (h : Attached s n)
    (hn : s.document.find? n = some t) (hu : u ∈ t.elements) : Attached s u.label := by
  obtain ⟨C, tag, attrs, hidden, children, rest, hplug, hroot⟩ := h.exists_plug hs
  obtain rfl := Option.some.inj (hplug.document.find?.symm.trans hn)
  obtain ⟨hu, helement⟩ := List.mem_filter.1 hu
  refine (hplug.attached_iff hroot).2 ⟨u, Tree.nodes_subset_plug C _ ?_, rfl, helement⟩
  exact List.mem_cons_of_mem _ (Tree.mem_nodesOf.2 ⟨u, hu, Tree.self_mem_nodes u⟩)

end Attached

/-! ## What is kept in place -/

/-- From a state to another one some elements are kept in place: they are in the tree of the
document node, and they have the same above them and the same stashed for them. -/
structure KeepsInPlace (p : NodeId → Prop) (s s' : State) : Prop where
  anchored : Anchored [Document.root] s'
  attached : ∀ n, p n → Attached s' n
  above : ∀ n, p n → ∀ m, s'.document.Above m n ↔ s.document.Above m n
  stash : ∀ n stored, p n → s.stash.find? n = some stored → s'.stash.find? n = some stored

namespace KeepsInPlace

/-- Nothing happens to elements in the tree of the document node when nothing happens. -/
lemma refl (hs : Anchored [Document.root] s) (hp : ∀ n, p n → Attached s n) : KeepsInPlace p s s :=
  ⟨hs, hp, fun _ _ _ => .rfl, fun _ _ _ h => h⟩

/-- What is kept in place by two steps is kept in place by both together. -/
lemma trans (h : KeepsInPlace p s s') (h' : KeepsInPlace p s' s'') : KeepsInPlace p s s'' :=
  ⟨h'.anchored, h'.attached, fun n hn m => (h'.above n hn m).trans (h.above n hn m),
    fun n stored hn hfind => h'.stash n stored hn (h.stash n stored hn hfind)⟩

/-- Of elements that are kept in place any are kept in place. -/
lemma mono (h : KeepsInPlace p s s') (hqp : ∀ n, q n → p n) : KeepsInPlace q s s' :=
  ⟨h.anchored, fun n hn => h.attached n (hqp n hn), fun n hn => h.above n (hqp n hn),
    fun n stored hn => h.stash n stored (hqp n hn)⟩

/-- Only the documents and the stashes count. -/
lemma congr {r r' : State} (h : KeepsInPlace p s s') (hd : r.document = s.document)
    (hs : r.stash = s.stash) (hd' : r'.document = s'.document) (hs' : r'.stash = s'.stash) :
    KeepsInPlace p r r' where
  anchored := let ⟨ts, hts⟩ := h.anchored; ⟨ts, hts.congr hd' hs'⟩
  attached n hn := by
    have hattached := h.attached n hn
    rwa [Attached, ← hd'] at hattached
  above n hn m := by
    rw [hd, hd']
    exact h.above n hn m
  stash n stored hn hfind := by
    rw [hs']
    exact h.stash n stored hn (hs ▸ hfind)

/-- In the tree of the document node a node takes the place of another one. Elements are kept in
place if those of them that are in the first node are in the second one, with the same parents. -/
lemma of_plug (h : Anchors s [Document.root] (C.plug t :: rest))
    (hroot : (C.plug t).label = Document.root)
    (h' : Anchors s' [Document.root] (C.plug u :: rest')) (hl : u.label = t.label)
    (he : u.isElement = t.isElement) (hp : ∀ n, p n → Attached s n)
    (hup : ∀ m n, p n → s.document.Above m n → p m)
    (hin : ∀ v ∈ t.nodes, v.isElement = true → p v.label → ∃ v' ∈ u.nodes,
      v'.label = v.label ∧ v'.isElement = true ∧ u.parent? v.label = t.parent? v.label)
    (hstash : ∀ n stored, p n → s.stash.find? n = some stored → s'.stash.find? n = some stored) :
    KeepsInPlace p s s' := by
  have hroot' : (C.plug u).label = Document.root := (Tree.plug_top C hl he).1.trans hroot
  have hkey (n : NodeId) (hn : p n) :
      Attached s' n ∧ s'.document.parent? n = s.document.parent? n := by
    obtain ⟨v, hv, rfl, helement⟩ := (h.attached_iff hroot).1 (hp n hn)
    have hmem := Tree.label_mem_of_mem_nodes hv
    by_cases ht : v.label ∈ t.released
    · obtain ⟨v', hv', hl', helement', hparent⟩ :=
        hin v (h.document.mem_nodes_of_label hv ht) helement hn
      refine ⟨(h'.attached_iff hroot').2 ⟨v', Tree.nodes_subset_plug C u hv', hl', helement'⟩, ?_⟩
      have hu : v.label ∈ u.released := hl' ▸ Tree.label_mem_of_mem_nodes hv'
      exact h.document.parent?_exchange h'.document hl hmem (Document.Has.mem_plug hu) hparent.symm
    · rcases Tree.exists_of_mem_plug hl hv with hv | ⟨v', hv', e, -⟩
      · exact absurd (Tree.label_mem_of_mem_nodes hv) ht
      have hl' : v'.label = v.label := by
        rw [← Tree.label_setChildren [], e, Tree.label_setChildren]
      have helement' : v'.isElement = true := by
        rw [← Tree.isElement_setChildren [], e, Tree.isElement_setChildren, helement]
      refine ⟨(h'.attached_iff hroot').2 ⟨v', hv', hl', helement'⟩, ?_⟩
      have hids : v.label ∈ C.ids := (Tree.mem_released_plug.1 hmem).resolve_left ht
      have hu : v.label ∉ u.released := fun hu => h'.document.notMem_ids hu hids
      refine h.document.parent?_exchange h'.document hl hmem
        (Tree.mem_released_plug.2 (.inr hids)) ?_
      rw [Tree.parent?_of_notMem ht, Tree.parent?_of_notMem hu]
  refine ⟨⟨_, h'⟩, fun n hn => (hkey n hn).1, fun n hn m => Document.above_congr ?_, hstash⟩
  rintro k (hk | rfl)
  · exact (hkey k (hup k n hn hk)).2
  · exact (hkey k hn).2

end KeepsInPlace

/-! ## What a step at an element keeps in place -/

/-- The elements that a step at an element keeps in place: if the step clears the element, those
that do not stand below it, and otherwise all of them. -/
def Outside (clears : Prop) (n : NodeId) (s : State) (m : NodeId) : Prop :=
  Attached s m ∧ (clears → ¬ s.document.Above n m)

section

variable {clears : Prop}

/-- What is above an element that a step keeps in place is kept in place as well. -/
lemma Outside.of_above (hs : Anchored [Document.root] s) (h : Outside clears n s m) {k : NodeId}
    (hk : s.document.Above k m) : Outside clears n s k :=
  ⟨h.1.of_above hs hk, fun hc hn => h.2 hc (hn.trans hk)⟩

/-- An element is itself kept in place by a step at it. -/
lemma Attached.outside (hs : Anchored [Document.root] s) (h : Attached s n) :
    Outside clears n s n :=
  let ⟨_, hts⟩ := hs.has
  ⟨h, fun _ => hts.not_above_self⟩

/-- What is kept in place by the first of two steps and by the second one as well. -/
lemma KeepsInPlace.outside (h : KeepsInPlace p s s') (hm : p m) (hp : Outside clears n s m) :
    Outside clears n s' m :=
  ⟨h.attached m hm, fun hc hn => hp.2 hc ((h.above m hm n).1 hn)⟩

/-- An element takes the place of another one, whatever is below them. -/
lemma KeepsInPlace.replace (hc : clears)
    (h : Anchors s [Document.root] (C.plug (.element n tag attrs hidden ts) :: rest))
    (hroot : (C.plug (.element n tag attrs hidden ts)).label = Document.root)
    (h' : Anchors s' [Document.root] (C.plug (.element n tag' attrs' hidden' us) :: rest'))
    (hstash : ∀ m stored, Outside clears n s m → s.stash.find? m = some stored →
      s'.stash.find? m = some stored) : KeepsInPlace (Outside clears n s) s s' := by
  refine .of_plug h hroot h' rfl rfl (fun m hm => hm.1) (fun k m hm => hm.of_above ⟨_, h⟩)
    (fun v hv _ hm => ⟨_, Tree.self_mem_nodes _, ?_⟩) hstash
  have hv : v = .element n tag attrs hidden ts :=
    (Tree.eq_or_mem_of_mem_nodes hv).resolve_right fun hbelow => by
      obtain ⟨w, hw, hvw⟩ := Tree.mem_nodesOf.1 hbelow
      refine hm.2 hc (h.document.above_of_mem h.document.find? ?_)
      exact Tree.released_subset_of_mem hw (Tree.label_mem_of_mem_nodes hvw)
  subst hv
  exact ⟨rfl, rfl, (Tree.parent?_label_eq_none (List.nodup_append.1 h'.document.nodup_plug).1).trans
    (Tree.parent?_label_eq_none (List.nodup_append.1 h.document.nodup_plug).1).symm⟩

/-- An element takes the place of another one, and has its element children. -/
lemma KeepsInPlace.keep
    (h : Anchors s [Document.root] (C.plug (.element n tag attrs hidden ts) :: rest))
    (hroot : (C.plug (.element n tag attrs hidden ts)).label = Document.root)
    (h' : Anchors s' [Document.root] (C.plug (.element n tag' attrs' hidden' us) :: rest'))
    (hsub : ∀ w ∈ ts, w.isElement = true → w ∈ us) (hstash : s'.stash = s.stash) :
    KeepsInPlace (Attached s) s s' := by
  refine .of_plug h hroot h' rfl rfl (fun _ hm => hm) (fun k m hm => hm.of_above ⟨_, h⟩)
    (fun v hv helement _ => ?_) fun m stored _ hfind => hstash ▸ hfind
  have hnodup := (List.nodup_append.1 h.document.nodup_plug).1
  have hnodup' := (List.nodup_append.1 h'.document.nodup_plug).1
  rcases Tree.eq_or_mem_of_mem_nodes hv with rfl | hv
  · exact ⟨_, Tree.self_mem_nodes _, rfl, rfl, (Tree.parent?_label_eq_none hnodup').trans
      (Tree.parent?_label_eq_none hnodup).symm⟩
  obtain ⟨w, hw, hvw⟩ := Tree.mem_nodesOf.1 hv
  have hwelement : w.isElement = true := by
    cases w with
    | element => rfl
    | text => exact List.mem_singleton.1 hvw ▸ helement
  have hw' := hsub w hw hwelement
  refine ⟨v, List.mem_cons_of_mem _ (Tree.mem_nodesOf.2 ⟨w, hw', hvw⟩), rfl, helement, ?_⟩
  have hmem := Tree.label_mem_of_mem_nodes hvw
  obtain ⟨before, after, rfl⟩ := List.append_of_mem (show w ∈ ts from hw)
  obtain ⟨before', after', rfl⟩ := List.append_of_mem hw'
  rw [Tree.released_element, List.nodup_append] at hnodup hnodup'
  rw [Tree.parent?_child hnodup.1 hmem, Tree.parent?_child hnodup'.1 hmem]

end

/-! ## Walks that find what they look up -/

/-- A walk from a state does not stop for a node that is gone, and keeps some elements in place. -/
structure Safe (p : NodeId → Prop) (s : State) (left : Except Stop α × State) : Prop where
  found : ∀ n, left.1 ≠ .error (.missing n)
  keepsInPlace : KeepsInPlace p s left.2

namespace Safe

variable {operator : Operator} {operand : String}

/-- A walk that keeps elements in place keeps any of them in place. -/
lemma mono {left : Except Stop α × State} (h : Safe p s left) (hqp : ∀ n, q n → p n) :
    Safe q s left :=
  ⟨h.found, h.keepsInPlace.mono hqp⟩

/-- A walk that only looks at the state, or stops for a fault. -/
lemma of_same {left : Except Stop α × State} (hs : KeepsInPlace p s s) (hl : left.2 = s)
    (hfound : ∀ n, left.1 ≠ .error (.missing n)) : Safe p s left :=
  ⟨hfound, hl.symm ▸ hs⟩

/-- A walk after another one, which may keep more in place. -/
lemma bind_of {w : Walk α} {f : α → Walk β} (hw : Safe q s (w s)) (hpq : ∀ n, p n → q n)
    (hf : ∀ a s', w s = (.ok a, s') → KeepsInPlace q s s' → Safe p s' (f a s')) :
    Safe p s ((w >>= f) s) := by
  rcases e : w s with ⟨stop | a, s'⟩
  · rw [run_bind_of_error e]
    rw [e] at hw
    exact ⟨fun n hn => hw.found n (by cases hn; rfl), hw.keepsInPlace.mono hpq⟩
  · rw [run_bind_of_ok e]
    have hs' : KeepsInPlace q s s' := (e ▸ hw.keepsInPlace :)
    have hlater := hf a s' e hs'
    exact ⟨hlater.found, (hs'.mono hpq).trans hlater.keepsInPlace⟩

/-- A walk after another one keeps in place what both do, if it is safe from where the first one
leads. -/
lemma bind {w : Walk α} {f : α → Walk β} (hw : Safe p s (w s))
    (hf : ∀ a s', w s = (.ok a, s') → KeepsInPlace p s s' → Safe p s' (f a s')) :
    Safe p s ((w >>= f) s) :=
  hw.bind_of (fun _ => id) hf

/-- What is done about a stop is done about a fault. -/
lemma tryCatch {w : Walk α} {handle : Stop → Walk α} (hw : Safe p s (w s))
    (hh : ∀ f s', KeepsInPlace p s s' → Safe p s' (handle (.fault f) s')) :
    Safe p s (MonadExcept.tryCatch w handle s) := by
  rcases e : w s with ⟨stop | a, s'⟩
  · rw [run_tryCatch_of_error e]
    rw [e] at hw
    cases stop with
    | missing n => exact absurd rfl (hw.found n)
    | fault f =>
      have hlater := hh f s' hw.keepsInPlace
      exact ⟨hlater.found, hw.keepsInPlace.trans hlater.keepsInPlace⟩
  · rw [run_tryCatch_of_ok e]
    exact e ▸ hw

/-- An operator of an element that is kept in place is found. -/
lemma site (hs : KeepsInPlace p s s) (hn : p n) : Safe p s (Walk.site n operator operand s) := by
  obtain ⟨t, ht, -⟩ := (hs.attached n hn).find? hs.anchored
  rw [Walk.site, run_bind_of_ok (run_node ht)]
  exact .of_same hs rfl nofun

end Safe

/-- Elements that were kept in place are kept in place when nothing happens. -/
lemma KeepsInPlace.self (h : KeepsInPlace p s s') : KeepsInPlace p s' s' :=
  .refl h.anchored h.attached

namespace Safe

variable {operator : Operator} {operand : String}

/-- A walk in an operator of an element that is kept in place is safe if it is so by itself. -/
lemma inOperator {act : Walk α} (hn : p n) (h : Safe p s (act s)) :
    Safe p s (Walk.inOperator n operator operand act s) :=
  h.tryCatch fun _ _ hs => (site hs.self hn).bind fun _ _ _ hs' => .of_same hs'.self rfl nofun

/-- Recording a fault in an operator of an element that is there is safe. -/
lemma recover (hs : KeepsInPlace p s s) (hn : p n) (cause : Cause) :
    Safe p s (Walk.recover n operator operand cause s) := by
  refine (site hs hn).bind fun site s' _ hs' => ?_
  cases (⟨cause, some site⟩ : Fault).faultClass with
  | content => exact ⟨nofun, hs'.self.congr rfl rfl rfl rfl⟩
  | assertion => exact .of_same hs'.self rfl nofun
  | other => exact .of_same hs'.self rfl nofun

/-- An operator of an element under the policy for faults, if the element is kept in place. -/
lemma guarded {undo : Walk Unit} {lacking abandoned : α} {act : Walk α} (hn : p n)
    (hact : Safe p s (act s)) (hundo : ∀ s', KeepsInPlace p s s' → Safe p s' (undo s')) :
    Safe p s (Walk.guarded n operator operand undo lacking abandoned act s) := by
  refine (hact.inOperator hn).tryCatch fun f s' hs' => ?_
  dsimp only
  cases f.faultClass with
  | content =>
    exact (hundo s' hs').bind fun _ _ _ hs'' => ⟨nofun, hs''.self.congr rfl rfl rfl rfl⟩
  | assertion => exact .of_same hs'.self rfl nofun
  | other => exact ⟨nofun, hs'.self.congr rfl rfl rfl rfl⟩

end Safe

/-! ## Steps at an element -/

section

variable {clears : Prop}

/-- A step at an element: in the tree of the document node it finds what it looks up, and it keeps
in place what does not stand below the element, or everything if it does not clear the element. -/
def StepWithin (clears : Prop) (n : NodeId) (α : Type) (w : Walk α) : Prop :=
  ∀ s, Anchored [Document.root] s → Attached s n → Safe (Outside clears n s) s (w s)

namespace StepWithin

/-- A step at an element, from a state to which the element was kept in place with others that the
step keeps in place. -/
lemma after {w : Walk α} (hw : StepWithin clears n α w) (hp : ∀ m, p m → Outside clears n s m)
    (hn : p n) (h : KeepsInPlace p s s') : Safe p s' (w s') :=
  (hw s' h.anchored (h.attached n hn)).mono fun m hm => h.outside hm (hp m hm)

/-- A walk that only looks at the state or stops for a fault. -/
lemma of_same {w : Walk α} (hl : ∀ s, (w s).2 = s) (hfound : ∀ s n, (w s).1 ≠ .error (.missing n)) :
    StepWithin clears n α w :=
  fun s hs _ => .of_same (.refl hs fun _ hm => hm.1) (hl s) (hfound s)

end StepWithin

/-- What looks at an element or meets the faults of its operators is a step at the element. -/
lemma stepWithin_closed (clears : Prop) (n : NodeId) : ClosedAt (StepWithin clears n) n where
  pure _ := .of_same (fun _ => rfl) fun _ => nofun
  refuse _ := .of_same (fun _ => rfl) fun _ => nofun
  get := .of_same (fun _ => rfl) fun _ => nofun
  bind hw hf s hs hn :=
    (hw s hs hn).bind fun a _ _ => (hf a).after (fun _ => id) (hn.outside hs)
  node s hs hn := by
    obtain ⟨t, ht, -⟩ := hn.find? hs
    rw [run_node ht]
    exact .of_same (.refl hs fun _ hm => hm.1) rfl nofun
  recover cause s hs hn := .recover (.refl hs fun _ hm => hm.1) (hn.outside hs) cause
  inOperator h s hs hn := (h s hs hn).inOperator (hn.outside hs)
  guarded hundo hact s hs hn :=
    (hact s hs hn).guarded (hn.outside hs) fun _ => hundo.after (fun _ => id) (hn.outside hs)

end

end TreeTemplate.Walk
