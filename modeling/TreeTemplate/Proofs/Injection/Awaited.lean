import TreeTemplate.Proofs.Anchored.StepWithin
import TreeTemplate.Proofs.Documents.Anchored

/-!
# Nodes to which an injection comes back

While an injection is inside an element it has put other nodes off: the elements that follow the
ones it is inside of, and the lists and maps that it fills with copies. It comes back to them, so
they have to be there still. A jump can lead it to an element above them, and if that is cleared
they are gone.

An injection is mindful if it never clears an element above a node that it put off before a jump. A
mindful injection finds every node that it looks up. One that does not jump is mindful.

Main statements:

* `Walk.Queue.safe` — what was put off is done in turn;
* `Walk.sound_inject` — a mindful injection into an element finds every node.
-/

namespace TreeTemplate

/-- Whether an operator can take away elements below the one that declares it. -/
def Operator.clears : Operator → Bool
  | .content .object => false
  | .content _ | .attr .value => true
  | .attr _ | .conditional _ | .jump => false

/-- The nodes that a walk has put off and comes back to. -/
structure Awaited where
  /-- The nodes put off before the last jump. -/
  before : List NodeId := []
  /-- The nodes put off since. -/
  since : List NodeId := []

namespace Awaited

variable {a : Awaited} {ns : List NodeId} {n : NodeId}

/-- All nodes that were put off. -/
def all (a : Awaited) : List NodeId :=
  a.since ++ a.before

/-- More nodes are put off. -/
def put (a : Awaited) (ns : List NodeId) : Awaited :=
  { a with since := ns ++ a.since }

/-- The walk jumps. -/
def jump (a : Awaited) : Awaited where
  before := a.all

/-- Whether no node that was put off before the last jump stands below a node. -/
def clearOf (a : Awaited) (d : Document) (n : NodeId) : Bool :=
  a.before.all fun m => !(d.find? n).any fun t => decide (m ∈ Tree.releasedOf t.children)

/-- Nodes are put off in addition to those that were. -/
@[simp]
lemma mem_put : n ∈ (a.put ns).all ↔ n ∈ ns ∨ n ∈ a.all := by
  simp [all, put]

/-- What was put off before a jump is clear of an element if it is not below it. -/
lemma not_above_of_clearOf {d : Document} {ts : List (Tree NodeId)} (hd : d.Has ts)
    (h : a.clearOf d n = true) {m : NodeId} (hm : m ∈ a.before) : ¬ d.Above n m := by
  intro habove
  obtain ⟨t, ht, hmem⟩ := hd.above_iff.1 habove
  have := List.all_eq_true.1 h m hm
  simp [ht, hmem] at this

end Awaited

/-! ## Mindful injections -/

namespace Walk

variable {α γ : Type}

/-- Whether what a walk leads to has a property, if it succeeds. -/
def leadsTo (w : Walk α) (p : α → State → Bool) (s : State) : Bool :=
  match w s with
  | (.ok a, s') => p a s'
  | (.error _, _) => true

/-- Whether walking one thing after another is mindful. At each of them the later ones are put
off. -/
def mindfulInTurn (node : γ → NodeId) (walk : γ → Walk Unit) (mindful : Awaited → γ → State → Bool)
    (a : Awaited) : List γ → State → Bool
  | [], _ => true
  | x :: later, s => mindful (a.put (later.map node)) x s &&
      leadsTo (walk x) (fun _ => mindfulInTurn node walk mindful a later) s

end Walk

/-- Whether a walk through an element in a scope is mindful from a state, where other nodes have
been put off. The fourth argument says whether the element is a copy made for an item or an
entry. -/
abbrev MindfulWalk := Awaited → NodeId → Value → Bool → Walk.State → Bool

namespace Walk

variable (walk : ElementWalk) (mindful : MindfulWalk)

/-- Whether filling an element with one serving after another is mindful. The element is put off
while copies are walked. -/
def mindfulServings (a : Awaited) (n : NodeId) (ordered : Bool) :
    List (List (NodeId × Value)) → State → Bool
  | [], _ => true
  | serving :: servings, s =>
    leadsTo (do advance ordered; appendCopies n serving)
        (mindfulInTurn Prod.fst (fun copy => walk copy.1 copy.2 true)
          (fun a copy => mindful a copy.1 copy.2 true) (a.put [n])) s &&
      leadsTo (do advance ordered; serve walk n serving)
        (fun _ => mindfulServings a n ordered servings) s

/-- Whether walking the elements below an element is mindful, if there is a scope for them. -/
def mindfulDescent (a : Awaited) (n : NodeId) : Option Value → State → Bool
  | some inner => leadsTo (node n) fun t =>
      mindfulInTurn Tree.label (fun child => walk child.label inner false)
        (fun a child => mindful a child.label inner false) a t.elements
  | none => fun _ => true

/-- Where an ordered list or a map begins to count. -/
def State.counted (ordered : Bool) (s : State) : State :=
  if ordered then { s with positions := 0 :: s.positions } else s

end Walk

namespace Setting

section

variable (c : Setting) (walk : ElementWalk) (mindful : MindfulWalk)

/-- Whether filling the content of an element is mindful. -/
def mindfulContent (a : Awaited) (n : NodeId) (scope : Value) :
    Option (ContentOperator × String) → Walk.State → Bool
  | some (operator, operand), s =>
    (!(Operator.content operator).clears || a.clearOf s.document n) &&
      match operator.ordered? with
      | some ordered => Walk.leadsTo (operator.servings c n scope operand)
          (fun servings s => Walk.mindfulServings walk mindful a n ordered servings
            (s.counted ordered)) s
      | none => true
  | none, _ => true

/-- Whether filling the content of an element and walking the elements below it is mindful. -/
def mindfulFill (a : Awaited) (n : NodeId) (ds : Directives) (scope : Value) (isItem : Bool) :
    Walk.State → Bool :=
  Walk.leadsTo (Walk.contentOperator n ds isItem) fun content? s =>
    c.mindfulContent walk mindful a n scope content? s &&
      Walk.leadsTo (Walk.inner c walk n scope content?) (Walk.mindfulDescent walk mindful a n) s

/-- Whether injecting a scope into an element whose directives are known is mindful. -/
def mindfulDirectives (a : Awaited) (n : NodeId) (ds : Directives) (scope : Value)
    (isItem : Bool) : Walk.State → Bool :=
  Walk.leadsTo (Walk.jumpTarget ds) fun target? s =>
    match target? with
    | some target => mindful a.jump target scope false s
    | none =>
      if scope.isNull then c.mindfulFill walk mindful a n ds scope isItem s
      else
        (!(ds.attributes.any fun declared => (Operator.attr declared.1).clears) ||
            a.clearOf s.document n) &&
          Walk.leadsTo (c.decorate n ds scope) (fun goesOn s =>
            !goesOn || c.mindfulFill walk mindful a n ds scope isItem s) s

end

/-- Whether injecting a scope into an element and everything below it is mindful: no element is
cleared above a node that was put off before the last jump. -/
def mindful (c : Setting) : Nat → MindfulWalk
  | 0, _, _, _, _, _ => true
  | room + 1, a, n, scope, isItem, s =>
    Walk.leadsTo (Walk.directives c.engine.dialect n)
      (fun ds => c.mindfulDirectives (c.inject room) (c.mindful room) a n ds scope isItem)
      { s with depth := s.depth + 1 }

end Setting

/-- Whether injecting a model is mindful. -/
def Template.mindful (t : Template) (e : Engine) (d : Document) (model : Value) : Bool :=
  model.isNull || Setting.mindful ⟨e, model⟩ e.maxDepth {} t.root model false
    { document := d, stash := t.stash }

/-! ## Where a walk can go on -/

namespace Walk

variable {α γ : Type} {s s' : State} {a : Awaited} {n m k : NodeId} {ns ms : List NodeId}
  {p : NodeId → Prop} {c : Setting} {walk : ElementWalk} {mindful : MindfulWalk}
  {scope : Value} {operand : String} {clears : Prop}

/-- What holds of where a walk leads holds where it succeeded. -/
lemma leadsTo_of_ok {w : Walk α} {q : α → State → Bool} (h : leadsTo w q s = true) {x : α}
    (e : w s = (.ok x, s')) : q x s' = true := by
  rwa [leadsTo, e] at h

/-- What holds of where two walks lead holds of where the second one does when the first has
succeeded. -/
lemma leadsTo_bind_of_ok {β : Type} {w : Walk α} {f : α → Walk β} {q : β → State → Bool}
    (h : leadsTo (w >>= f) q s = true) {x : α} (e : w s = (.ok x, s')) :
    leadsTo (f x) q s' = true := by
  rwa [leadsTo, run_bind_of_ok e] at h

/-- A walk can enter an element: the element and the nodes that were put off are in the tree of the
document node, and none that was put off since the last jump is below the element. -/
structure CanEnter (a : Awaited) (n : NodeId) (s : State) : Prop where
  anchored : Anchored [Document.root] s
  attached : Attached s n
  all : ∀ m ∈ a.all, Attached s m
  since : ∀ m ∈ a.since, ¬ s.document.Above n m

/-- A walk can enter elements one after another. -/
structure Queue (a : Awaited) (ns : List NodeId) (s : State) : Prop where
  anchored : Anchored [Document.root] s
  attached : ∀ n ∈ ns, Attached s n
  all : ∀ m ∈ a.all, Attached s m
  apart : ∀ n ∈ ns, ∀ m ∈ ns, ¬ s.document.Above n m
  since : ∀ n ∈ ns, ∀ m ∈ a.since, ¬ s.document.Above n m

/-- A node in the tree of the document node has exactly an element and what is above that one
above it. -/
def Hangs (n : NodeId) (s : State) (m : NodeId) : Prop :=
  Attached s m ∧ ∀ k, s.document.Above k m ↔ k = n ∨ s.document.Above k n

/-- An element hangs from its parent. -/
lemma hangs_of_parent (h : Attached s m) (hparent : s.document.parent? m = some n) : Hangs n s m :=
  ⟨h, fun _ => Document.above_iff_of_parent hparent⟩

/-- An element that is kept in place with the one it hangs from still hangs from it. -/
lemma Hangs.of_keepsInPlace (h : Hangs n s m) (hs : KeepsInPlace p s s') (hn : p n) (hm : p m) :
    Hangs n s' m :=
  ⟨hs.attached m hm, fun k => by rw [hs.above m hm, hs.above n hn, h.2]⟩

namespace CanEnter

/-- A node that was put off, and the element itself, is kept in place by a step at the element. -/
lemma outside (h : CanEnter a n s) (hc : clears → a.clearOf s.document n = true)
    (hm : m ∈ (a.put [n]).all) : Outside clears n s m := by
  rcases Awaited.mem_put.1 hm with hm | hm
  · obtain rfl := List.mem_singleton.1 hm
    exact h.attached.outside h.anchored
  · refine ⟨h.all m hm, fun hclears => ?_⟩
    obtain ⟨ts, hts⟩ := h.anchored.has
    exact (List.mem_append.1 hm).elim (h.since m)
      (Awaited.not_above_of_clearOf hts (hc hclears))

/-- The element and the nodes that were put off are in the tree of the document node. -/
lemma attached_of_mem (h : CanEnter a n s) (hm : m ∈ (a.put [n]).all) : Attached s m :=
  (h.outside (fun hc : False => hc.elim) hm).1

/-- A step at the element. -/
lemma stepWithin {w : Walk α} (h : CanEnter a n s) (hc : clears → a.clearOf s.document n = true)
    (hw : StepWithin clears n α w) : Safe (· ∈ (a.put [n]).all) s (w s) :=
  (hw s h.anchored h.attached).mono fun _ hm => h.outside hc hm

/-- A step at the element that clears nothing. -/
lemma quiet {w : Walk α} (h : CanEnter a n s) (hw : StepWithin False n α w) :
    Safe (· ∈ (a.put [n]).all) s (w s) :=
  h.stepWithin (fun hc : False => hc.elim) hw

/-- A walk can still enter an element that is kept in place with those that were put off. -/
lemma of_keepsInPlace (h : CanEnter a n s) (hs : KeepsInPlace (· ∈ (a.put [n]).all) s s') :
    CanEnter a n s' where
  anchored := hs.anchored
  attached := hs.attached n (by simp)
  all m hm := hs.attached m (by simp [hm])
  since m hm := by
    rw [hs.above m (Awaited.mem_put.2 (.inr (List.mem_append_left _ hm)))]
    exact h.since m hm

/-- What hangs below the element can be walked in turn, with the element put off. -/
lemma queue (h : CanEnter a n s) (hns : ∀ m ∈ ns, Hangs n s m) : Queue (a.put [n]) ns s := by
  obtain ⟨ts, hts⟩ := h.anchored.has
  have hbelow (m : NodeId) (hm : m ∈ ns) : s.document.Above n m := ((hns m hm).2 n).2 (.inl rfl)
  have hself (m : NodeId) (hm : m ∈ ns) : ¬ s.document.Above m n := fun habove =>
    hts.not_above_self (habove.trans (hbelow m hm))
  refine ⟨h.anchored, fun m hm => (hns m hm).1, fun m hm => ?_, fun m hm k hk habove => ?_,
    fun m hm k hk habove => ?_⟩
  · exact h.attached_of_mem hm
  · rcases ((hns k hk).2 m).1 habove with rfl | habove
    · exact hts.not_above_self (hbelow _ hm)
    · exact hself m hm habove
  · rcases List.mem_cons.1 hk with rfl | hk
    · exact hself m hm habove
    · exact h.since k hk ((hbelow m hm).trans habove)

/-- The elements directly below the element can be walked in turn. -/
lemma children {t : Tree NodeId} (h : CanEnter a n s) (hn : s.document.find? n = some t) :
    Queue (a.put [n]) (t.elements.map Tree.label) s := by
  obtain ⟨ts, hts⟩ := h.anchored.has
  refine h.queue fun m hm => ?_
  obtain ⟨u, hu, rfl⟩ := List.mem_map.1 hm
  exact hangs_of_parent (h.attached.child h.anchored hn hu)
    (hts.child hn (List.mem_filter.1 hu).1).2

end CanEnter

namespace Queue

/-- Nodes that were put off need not be any more. -/
lemma drop (h : Queue (a.put ms) ns s) : Queue a ns s where
  anchored := h.anchored
  attached := h.attached
  all m hm := h.all m (by simp [hm])
  apart := h.apart
  since n hn m hm := h.since n hn m (List.mem_append_right _ hm)

/-- The first element can be entered, with the others put off. -/
lemma canEnter (h : Queue a (n :: ns) s) : CanEnter (a.put ns) n s where
  anchored := h.anchored
  attached := h.attached n List.mem_cons_self
  all m hm := (Awaited.mem_put.1 hm).elim (fun hm => h.attached m (List.mem_cons_of_mem _ hm))
    (h.all m)
  since m hm := (List.mem_append.1 hm).elim
    (fun hm => h.apart n List.mem_cons_self m (List.mem_cons_of_mem _ hm))
    (h.since n List.mem_cons_self m)

/-- When they were kept in place, the walk goes on with the others. -/
lemma later (h : Queue a (n :: ns) s) (hs : KeepsInPlace (· ∈ (a.put ns).all) s s') :
    Queue a ns s' where
  anchored := hs.anchored
  attached m hm := hs.attached m (by simp [hm])
  all m hm := hs.attached m (by simp [hm])
  apart m hm k hk := by
    rw [hs.above k (by simp [hk])]
    exact h.apart m (List.mem_cons_of_mem _ hm) k (List.mem_cons_of_mem _ hk)
  since m hm k hk := by
    rw [hs.above k (Awaited.mem_put.2 (.inr (List.mem_append_left _ hk)))]
    exact h.since m (List.mem_cons_of_mem _ hm) k hk

/-- Things are walked one after another. -/
lemma safe {node : γ → NodeId} {walk : γ → Walk Unit} {mindful : Awaited → γ → State → Bool}
    (hwalk : ∀ a x s, CanEnter a (node x) s → mindful a x s = true → Safe (· ∈ a.all) s (walk x s))
    {xs : List γ} (h : Queue a (xs.map node) s)
    (hmindful : mindfulInTurn node walk mindful a xs s = true) :
    Safe (· ∈ a.all) s (xs.forM walk s) := by
  induction xs generalizing s with
  | nil => exact .of_same (.refl h.anchored h.all) rfl nofun
  | cons x xs ih =>
    obtain ⟨hfirst, hlater⟩ := Bool.and_eq_true_iff.1 hmindful
    have hx := hwalk _ x s h.canEnter hfirst
    show Safe _ s ((walk x >>= fun _ => xs.forM walk) s)
    exact hx.bind_of (fun m hm => by simp [hm]) fun _ s' e hs' =>
      ih (h.later hs') (leadsTo_of_ok hlater e)

end Queue

/-! ## Lists and maps -/

/-- The templates of what an element is filled with are stashed for it. -/
def Supplies (n : NodeId) (servings : List (List (NodeId × Value))) (s : State) : Prop :=
  ∃ stored, s.stash.find? n = some stored ∧
    ∀ serving ∈ servings, ∀ copy ∈ serving, copy.1 ∈ stored.templates

/-- The templates that are stashed for a node are among those of the stash. -/
lemma mem_templates {stored : Stored} (h : s.stash.find? n = some stored)
    (hm : m ∈ stored.templates) : m ∈ s.stash.templates :=
  List.mem_flatMap.2 ⟨_, Stash.mem_of_lookup h, hm⟩

/-- Where an element was cleared for copies, their templates are stashed for it. -/
lemma supplies_servings {operator : ContentOperator} {ordered : Bool}
    {servings : List (List (NodeId × Value))} (hop : operator.ordered? = some ordered)
    (hs : IdentitiesOnce s) (h : operator.servings c n scope operand s = (.ok servings, s')) :
    Supplies n servings s' := by
  cases operator with
  | list _ =>
    obtain ⟨template, s₁, htemplate, h⟩ := exists_of_run_bind h
    obtain ⟨_, s₂, hclear, h⟩ := exists_of_run_bind h
    have hstill := (taking_identitiesOnce.itemTemplate n).of_ok htemplate hs
    have hstays := (clear_again hstill hclear).2.2
    have hfound := hstays.trans (itemTemplate_find? htemplate)
    cases hitems : Path.itemsIn c.model scope operand with
    | error cause =>
      rw [hitems, check_error_bind] at h
      cases h
    | ok items =>
      rw [hitems, check_ok_bind] at h
      cases h
      refine ⟨_, hfound, fun serving hserving copy hcopy => ?_⟩
      obtain ⟨item, -, rfl⟩ := List.mem_map.1 hserving
      simp [List.mem_singleton.1 hcopy, Stored.templates]
  | map _ =>
    obtain ⟨⟨key, value⟩, s₁, htemplates, h⟩ := exists_of_run_bind h
    obtain ⟨_, s₂, hclear, h⟩ := exists_of_run_bind h
    have hstill := (taking_identitiesOnce.entryTemplates n).of_ok htemplates hs
    have hstays := (clear_again hstill hclear).2.2
    have hfound := hstays.trans (entryTemplates_find? htemplates)
    cases hentries : Path.entriesIn c.model scope operand with
    | error cause =>
      rw [hentries, check_error_bind] at h
      cases h
    | ok entries =>
      rw [hentries, check_ok_bind] at h
      cases h
      refine ⟨_, hfound, fun serving hserving copy hcopy => ?_⟩
      obtain ⟨entry, -, rfl⟩ := List.mem_map.1 hserving
      rcases List.mem_cons.1 hcopy with rfl | hcopy
      · simp [Stored.templates]
      · simp [List.mem_singleton.1 hcopy, Stored.templates]
  | _ => cases hop

/-- Copies of templates that are stashed are put below an element. -/
lemma appendCopies_safe {serving : List (NodeId × Value)} (hs : Anchored [Document.root] s)
    (hn : Attached s n) (hserving : ∀ copy ∈ serving, copy.1 ∈ s.stash.templates) :
    ∃ copies s', appendCopies n serving s = (.ok copies, s') ∧ KeepsInPlace (Attached s) s s' ∧
      ∀ copy ∈ copies, Hangs n s' copy.1 := by
  induction serving generalizing s with
  | nil => exact ⟨[], s, rfl, .refl hs fun _ hm => hm, nofun⟩
  | cons copy serving ih =>
    obtain ⟨m, s₁, e, hinPlace, hattached, hparent, hstash⟩ :=
      appendCopy_safe hs hn (hserving copy List.mem_cons_self)
    obtain ⟨copies, s₂, e', hinPlace', hcopies⟩ := ih hinPlace.anchored (hinPlace.attached n hn)
      fun copy hcopy => hstash ▸ hserving copy (List.mem_cons_of_mem _ hcopy)
    refine ⟨(m, copy.2) :: copies, s₂, ?_, hinPlace.trans (hinPlace'.mono hinPlace.attached), ?_⟩
    · rw [appendCopies, List.mapM_cons]
      exact (run_bind_of_ok ((run_bind_of_ok e).trans rfl)).trans
        ((run_bind_of_ok (show appendCopies n serving s₁ = (.ok copies, s₂) from e')).trans rfl)
    · refine List.forall_mem_cons.2 ⟨?_, hcopies⟩
      exact (hangs_of_parent hattached hparent).of_keepsInPlace hinPlace' (hinPlace.attached n hn)
        hattached

/-! ## Whole walks -/

/-- Only the document and the stash count of the states. -/
lemma Safe.congr {r r' : State} {e : Except Stop α} (h : Safe p s (e, s'))
    (hd : r.document = s.document) (hs : r.stash = s.stash) (hd' : r'.document = s'.document)
    (hs' : r'.stash = s'.stash) : Safe p r (e, r') :=
  ⟨h.found, h.keepsInPlace.congr hd hs hd' hs'⟩

/-- Whether a walk can enter an element depends on the document and the stash alone. -/
lemma CanEnter.congr (h : CanEnter a n s) (hd : s'.document = s.document)
    (hs : s'.stash = s.stash) :
    CanEnter a n s' :=
  have hself : KeepsInPlace (· ∈ (a.put [n]).all) s s := .refl h.anchored fun _ hm =>
    h.attached_of_mem hm
  h.of_keepsInPlace (hself.congr rfl rfl hd hs)

/-- A walk finds what it looks up, and keeps in place what was put off, where it is mindful. -/
def Sound (mindful : MindfulWalk) (walk : ElementWalk) : Prop :=
  ∀ a n scope isItem s, CanEnter a n s → mindful a n scope isItem s = true →
    Safe (· ∈ a.all) s (walk n scope isItem s)

/-- Counting a position succeeds, and changes neither the document nor the stash. -/
lemma exists_advance (ordered : Bool) (s : State) : ∃ s', advance ordered s = (.ok (), s') ∧
    s'.document = s.document ∧ s'.stash = s.stash := by
  cases ordered <;> exact ⟨_, rfl, rfl, rfl⟩

namespace Sound

variable (hwalk : Sound mindful walk)
include hwalk

/-- The copies for an item or an entry are put below an element and walked. -/
lemma serve {serving : List (NodeId × Value)} (h : CanEnter a n s)
    (hserving : ∀ copy ∈ serving, copy.1 ∈ s.stash.templates)
    (hmindful : leadsTo (appendCopies n serving) (mindfulInTurn Prod.fst
      (fun copy => walk copy.1 copy.2 true) (fun a copy => mindful a copy.1 copy.2 true)
      (a.put [n])) s = true) :
    Safe (· ∈ (a.put [n]).all) s (Walk.serve walk n serving s) := by
  obtain ⟨copies, s', e, hinPlace, hcopies⟩ := appendCopies_safe h.anchored h.attached hserving
  have hall : KeepsInPlace (· ∈ (a.put [n]).all) s s' := hinPlace.mono fun m hm =>
    h.attached_of_mem hm
  have hqueue : Queue (a.put [n]) (copies.map Prod.fst) s' :=
    (h.of_keepsInPlace hall).queue fun m hm => by
      obtain ⟨copy, hcopy, rfl⟩ := List.mem_map.1 hm
      exact hcopies copy hcopy
  have hleft :=
    hqueue.safe (fun a copy s => hwalk a copy.1 copy.2 true s) (leadsTo_of_ok hmindful e)
  rw [Walk.serve, run_bind_of_ok e]
  exact ⟨hleft.found, hall.trans hleft.keepsInPlace⟩

/-- An element is filled with one serving after another. -/
lemma serveAll {ordered : Bool} {servings : List (List (NodeId × Value))} (h : CanEnter a n s)
    (hsupplies : Supplies n servings s)
    (hmindful : mindfulServings walk mindful a n ordered servings s = true) :
    Safe (· ∈ (a.put [n]).all) s (Walk.serveAll walk n ordered servings s) := by
  induction servings generalizing s with
  | nil =>
    exact .of_same (.refl h.anchored fun _ hm => h.attached_of_mem hm) rfl nofun
  | cons serving servings ih =>
    obtain ⟨hfirst, hlater⟩ := Bool.and_eq_true_iff.1 hmindful
    obtain ⟨stored, hfind, htemplates⟩ := hsupplies
    obtain ⟨s₁, e, hd, hstash⟩ := exists_advance ordered s
    have hserve := hwalk.serve (h.congr hd hstash)
      (fun copy hcopy => hstash ▸ mem_templates hfind
        (htemplates serving List.mem_cons_self copy hcopy))
      (leadsTo_bind_of_ok hfirst e)
    have hbody : Safe (· ∈ (a.put [n]).all) s
        ((do advance ordered; Walk.serve walk n serving : Walk Unit) s) := by
      rw [run_bind_of_ok e]
      exact hserve.congr hd.symm hstash.symm rfl rfl
    refine hbody.bind fun _ s' e' hs' => ih (h.of_keepsInPlace hs')
      ⟨stored, hs'.stash n stored (by simp) hfind, fun serving hserving =>
        htemplates serving (List.mem_cons_of_mem _ hserving)⟩ (leadsTo_of_ok hlater e')

/-- An ordered list or a map counts along. -/
lemma counting {ordered : Bool} {servings : List (List (NodeId × Value))} (h : CanEnter a n s)
    (hsupplies : Supplies n servings s)
    (hmindful : mindfulServings walk mindful a n ordered servings (s.counted ordered) = true) :
    Safe (· ∈ (a.put [n]).all) s
      (Walk.counting ordered (Walk.serveAll walk n ordered servings) s) := by
  cases ordered with
  | false => exact hwalk.serveAll h hsupplies hmindful
  | true =>
    exact (hwalk.serveAll (s := s.counted true) (h.congr rfl rfl) hsupplies hmindful).congr
      rfl rfl rfl rfl

/-- The content of an element is filled. -/
lemma execute {operator : ContentOperator} (h : CanEnter a n s)
    (hmindful : c.mindfulContent walk mindful a n scope (some (operator, operand)) s = true) :
    Safe (· ∈ (a.put [n]).all) s (operator.execute c walk n scope operand s) := by
  obtain ⟨hclear, hcopies⟩ := Bool.and_eq_true_iff.1 hmindful
  have hc (hclears : (Operator.content operator).clears = true) :
      a.clearOf s.document n = true := by simpa [hclears] using hclear
  cases hop : operator.ordered? with
  | none =>
    refine h.stepWithin hc ?_
    by_cases hobject : operator = .object
    · subst hobject
      have hclosed := stepWithin_closed ((Operator.content .object).clears = true) n
      exact hclosed.guarded (hclosed.pure ())
        (hclosed.bind hclosed.runObject fun _ => hclosed.pure _)
    · have hfilling : Filling (StepWithin ((Operator.content operator).clears = true) n) n :=
        stepWithin_filling (by cases operator <;> first | rfl | exact absurd rfl hobject) n
      exact hfilling.execute (hfilling.toPlainFilling.run hop)
  | some ordered =>
    have hclears : (Operator.content operator).clears = true := by
      cases operator <;> first | rfl | cases hop
    have hfilling : Filling (StepWithin ((Operator.content operator).clears = true) n) n :=
      stepWithin_filling hclears n
    have hservings : StepWithin ((Operator.content operator).clears = true) n _
        (operator.servings c n scope operand) := hfilling.toStocking.servings operator
    refine Safe.guarded (by simp) ?_ fun s' hs' => (hfilling.undoContent operator).after
      (fun m hm => h.outside hc hm) (by simp) hs'
    rw [ContentOperator.run_eq hop]
    refine (h.stepWithin hc hservings).bind fun servings s' e hs' => ?_
    have hcan := h.of_keepsInPlace hs'
    refine (hwalk.counting hcan (supplies_servings hop h.anchored.has e) ?_).bind
      fun _ _ _ hs'' => .of_same hs''.self rfl nofun
    rw [hop] at hcopies
    exact leadsTo_of_ok hcopies e

/-- The elements below an element are walked in turn. -/
lemma descend {inner? : Option Value} (h : CanEnter a n s)
    (hmindful : mindfulDescent walk mindful a n inner? s = true) :
    Safe (· ∈ a.all) s (Walk.descend walk n inner? s) := by
  cases inner? with
  | none => exact .of_same (.refl h.anchored h.all) rfl nofun
  | some inner =>
    obtain ⟨t, ht, -⟩ := h.attached.find? h.anchored
    show Safe _ s (below (fun m => walk m inner false) n s)
    rw [below, run_bind_of_ok (run_node ht)]
    exact (h.children ht).drop.safe (fun a child s => hwalk a child.label inner false s)
      (leadsTo_of_ok hmindful (run_node ht))

/-- The content of an element is filled, and what is below it is walked. -/
lemma fill {ds : Directives} {isItem : Bool} (h : CanEnter a n s)
    (hmindful : c.mindfulFill walk mindful a n ds scope isItem s = true) :
    Safe (· ∈ a.all) s (c.fill walk n ds scope isItem s) := by
  have hall (m : NodeId) (hm : m ∈ a.all) : m ∈ (a.put [n]).all := by simp [hm]
  rw [Setting.fill_eq]
  refine (h.quiet ((stepWithin_closed False n).contentOperator ds isItem)).bind_of hall
    fun content? s₁ e hs₁ => ?_
  replace h := h.of_keepsInPlace hs₁
  obtain ⟨hcontent, hdescent⟩ := Bool.and_eq_true_iff.1 (leadsTo_of_ok hmindful e)
  have hinner : Safe (· ∈ (a.put [n]).all) s₁ (inner c walk n scope content? s₁) := by
    cases content? with
    | none => exact h.quiet ((stepWithin_closed False n).pure _)
    | some declared => exact hwalk.execute h hcontent
  exact hinner.bind_of hall fun inner? s₂ e' hs₂ =>
    hwalk.descend (h.of_keepsInPlace hs₂) (leadsTo_of_ok hdescent e')

end Sound

/-- An element that a jump leads to is in the tree of the document node. -/
lemma attached_of_withId? {id : String} (h : s.document.withId? id = some n) : Attached s n := by
  obtain ⟨t, ht, rfl⟩ := Option.map_eq_some_iff.1 h
  refine ⟨t, List.mem_of_find?_eq_some ht, rfl, ?_⟩
  have hattr := List.find?_some ht
  cases t with
  | element => rfl
  | text => cases hattr

namespace Sound

variable (hwalk : Sound mindful walk)
include hwalk

/-- A scope is injected into an element whose directives are known. -/
lemma injectDirectives {ds : Directives} {isItem : Bool} (h : CanEnter a n s)
    (hmindful : c.mindfulDirectives walk mindful a n ds scope isItem s = true) :
    Safe (· ∈ a.all) s (c.injectDirectives walk n ds scope isItem s) := by
  have hjump : jumpTarget ds s = (.ok (ds.jump?.bind s.document.withId?), s) := rfl
  rw [Setting.injectDirectives, run_bind_of_ok hjump]
  replace hmindful := leadsTo_of_ok hmindful hjump
  cases htarget : ds.jump?.bind s.document.withId? with
  | some target =>
    rw [htarget] at hmindful
    obtain ⟨id, -, hid⟩ := Option.bind_eq_some_iff.1 htarget
    exact hwalk a.jump target scope false s
      ⟨h.anchored, attached_of_withId? hid, h.all, nofun⟩ hmindful
  | none =>
    rw [htarget] at hmindful
    dsimp only at hmindful ⊢
    split
    · rename_i hnull
      rw [if_pos hnull] at hmindful
      exact hwalk.fill h hmindful
    · rename_i hnull
      rw [if_neg hnull] at hmindful
      obtain ⟨hclear, hgoesOn⟩ := Bool.and_eq_true_iff.1 hmindful
      let clears : Prop :=
        (ds.attributes.any fun declared => (Operator.attr declared.1).clears) = true
      have hc (hclears : clears) : a.clearOf s.document n = true := by
        simpa [show _ = true from hclears] using hclear
      have hdecorate : StepWithin clears n Bool (c.decorate n ds scope) := by
        refine (stepWithin_restyling clears n).decorate fun declared hdeclared => ?_
        by_cases hvalue : declared.1 = .value
        · have hclears : clears := List.any_eq_true.2 ⟨declared, hdeclared, by rw [hvalue]; rfl⟩
          exact (stepWithin_filling hclears n).runAttribute declared.1
        · exact (stepWithin_restyling clears n).runAttribute hvalue
      refine (h.stepWithin hc hdecorate).bind_of (fun m hm => by simp [hm])
        fun goesOn s' e hs' => ?_
      have hleft := leadsTo_of_ok hgoesOn e
      cases goesOn with
      | true => exact hwalk.fill (h.of_keepsInPlace hs') hleft
      | false =>
        refine .of_same (.refl hs'.anchored fun m hm => hs'.attached m ?_) rfl nofun
        simp [hm]

end Sound

/-- A mindful injection into an element finds every node that it looks up. -/
lemma sound_inject (c : Setting) (room : Nat) : Sound (c.mindful room) (c.inject room) := by
  induction room with
  | zero =>
    intro a n scope isItem s h _
    exact (h.quiet (stepWithin_closed False n).refuseDepth).mono
      fun m hm => by simp [hm]
  | succ room ih =>
    intro a n scope isItem s h hmindful
    have hdeeper : CanEnter a n { s with depth := s.depth + 1 } := h.congr rfl rfl
    have hleft : Safe (· ∈ a.all) { s with depth := s.depth + 1 }
        ((directives c.engine.dialect n >>= fun ds =>
          c.injectDirectives (c.inject room) n ds scope isItem) { s with depth := s.depth + 1 }) :=
      (hdeeper.quiet ((stepWithin_closed False n).directives c.engine.dialect)).bind_of
        (fun m hm => by simp [hm])
        fun ds s' e hs' =>
          ih.injectDirectives (hdeeper.of_keepsInPlace hs') (leadsTo_of_ok hmindful e)
    exact hleft.congr rfl rfl rfl rfl

end Walk

end TreeTemplate
