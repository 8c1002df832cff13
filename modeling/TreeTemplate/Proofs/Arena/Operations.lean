import TreeTemplate.Document.Operation
import TreeTemplate.Proofs.Arena.Reading
import TreeTemplate.Proofs.Arena.WellFormed
import TreeTemplate.Proofs.Forest.Restyles
import TreeTemplate.Proofs.Markup.Trees

/-!
# Operations on arenas

An operation is in order when the nodes that it is given are there, the document node is neither
removed nor put below another node, and no node is put below itself. Nothing more is asked of the
nodes: one that is given as the node to be filled may be a text, whose slot was given out again
since the identity was kept.

Every operation that is in order can be done and leaves a well-formed arena. It leaves nothing below
a text as long as none is filled. Where one is, something hangs from it.

Main statements:

* `Orderly.run?` — what one operation leaves;
* `arena_wellFormed` — an arena stays well formed under operations one after another;
* `arena_crowded` — a text from which an element hangs.
-/

namespace TreeTemplate

open Document (root)
open Relation (ReflTransGen)
open TreeTemplate.Branch (idsOf)
open TreeTemplate.Tree (branches)

namespace Arena

/-- Whether an operation is in order: its nodes are there, the document node stays where it is, and
no node is put below itself. -/
def InOrder (a : Arena) : Operation → Prop
  | .setAttr n _ _ | .removeAttr n _ | .addClass n _ | .removeClass n _ | .removeChildren n
  | .detach n | .clone n _ | .setText n _ | .removeText n | .setMarkup n _ | .setHidden n _ =>
    (a.node? n).isSome
  | .append parent child => (a.node? parent).isSome ∧ (a.node? child).isSome ∧ child ≠ root ∧
      ¬ ReflTransGen a.HangsFrom parent child
  | .remove n => (a.node? n).isSome ∧ n ≠ root
  | .create _ => True

/-- Whether a node that an operation fills is an element. -/
def FillsElement (a : Arena) : Operation → Prop
  | .append n _ | .setText n _ | .setMarkup n _ => ∀ s ∈ a.node? n, s.data.isElement = true
  | _ => True

/-- Whether something holds of operations, each where those before it have led to. -/
def Throughout (p : Arena → Operation → Prop) (a : Arena) : List Operation → Prop
  | [] => True
  | op :: ops => p a op ∧ ∀ a' ∈ a.run? op, Throughout p a' ops

/-! ### Looking whether operations are in order -/

/-- Whether an operation can be seen to be in order, by going up from the node that is filled. -/
def allows (a : Arena) : Operation → Bool
  | .setAttr n _ _ | .removeAttr n _ | .addClass n _ | .removeClass n _ | .removeChildren n
  | .detach n | .clone n _ | .setText n _ | .removeText n | .setMarkup n _ | .setHidden n _ =>
    (a.node? n).isSome
  | .append parent child => (a.node? child).isSome && child ≠ root &&
      (above? a.room a parent).any fun ns => child ∉ ns
  | .remove n => (a.node? n).isSome && n ≠ root
  | .create _ => true

/-- The node that an operation fills can be looked at. -/
instance (a : Arena) (op : Operation) : Decidable (a.FillsElement op) :=
  match op with
  | .append n _ | .setText n _ | .setMarkup n _ =>
    inferInstanceAs (Decidable (∀ s ∈ a.node? n, s.data.isElement = true))
  | .setAttr .. | .removeAttr .. | .addClass .. | .removeClass .. | .removeChildren _ | .detach _
  | .remove _ | .clone .. | .removeText _ | .create _ | .setHidden .. => .isTrue trivial

/-- What can be found out of every operation can be found out of several, by running them. -/
instance decidableThroughout (p : Arena → Operation → Prop) [∀ a op, Decidable (p a op)] :
    ∀ (a : Arena) (ops : List Operation), Decidable (Throughout p a ops)
  | _, [] => .isTrue trivial
  | a, op :: ops =>
    have (a' : Arena) : Decidable (Throughout p a' ops) := decidableThroughout p a' ops
    inferInstanceAs (Decidable (p a op ∧ ∀ a' ∈ a.run? op, Throughout p a' ops))

/-- What follows from what holds of operations holds of them as well. -/
lemma Throughout.mono {p q : Arena → Operation → Prop} (hpq : ∀ a op, p a op → q a op) {a : Arena}
    {ops : List Operation} (h : a.Throughout p ops) : a.Throughout q ops := by
  induction ops generalizing a with
  | nil => trivial
  | cons op ops ih => exact ⟨hpq a op h.1, fun a' ha' => ih (h.2 a' ha')⟩

/-- The links lead from a node to itself and to the nodes above it. -/
lemma mem_above? {a : Arena} {room : Nat} {n m : NodeId} {ns : List NodeId}
    (h : above? room a n = some ns) (hm : ReflTransGen a.HangsFrom n m) : m ∈ ns := by
  induction room generalizing n ns with
  | zero => cases h
  | succ room ih =>
    simp only [above?, Option.bind_eq_bind, Option.bind_eq_some_iff] at h
    obtain ⟨s, hs, h⟩ := h
    have hparent : a.parent? n = s.parent := by rw [parent?, hs, Option.bind_some]
    rcases hm.cases_head with rfl | ⟨p, hp, hm⟩
    · split at h
      · cases h
        exact List.mem_singleton_self n
      · obtain ⟨above, -, rfl⟩ := Option.map_eq_some_iff.1 h
        exact List.mem_cons_self
    · rw [HangsFrom, hparent] at hp
      rw [hp] at h
      obtain ⟨above, habove, rfl⟩ := Option.map_eq_some_iff.1 h
      exact List.mem_cons_of_mem n (ih habove hm)

/-- An operation that can be seen to be in order is. -/
lemma inOrder_of_allows (a : Arena) (op : Operation) (h : a.allows op = true) : a.InOrder op := by
  cases op with
  | append parent child =>
    simp only [allows, Bool.and_eq_true, decide_eq_true_eq, Option.any_eq_true] at h
    obtain ⟨⟨hchild, hroot⟩, ns, hns, hbelow⟩ := h
    refine ⟨?_, hchild, hroot, fun hm => hbelow (mem_above? hns hm)⟩
    rw [Option.isSome_iff_exists]
    cases hroom : a.room with
    | zero =>
      rw [hroom] at hns
      cases hns
    | succ room =>
      rw [hroom] at hns
      simp only [above?, Option.bind_eq_bind, Option.bind_eq_some_iff] at hns
      obtain ⟨s, hs, -⟩ := hns
      exact ⟨s, hs⟩
  | remove n => simpa [allows, InOrder] using h
  | create tag => trivial
  | setAttr n | removeAttr n | addClass n | removeClass n | removeChildren n | detach n | clone n
  | setText n | removeText n | setMarkup n | setHidden n => exact h

end Arena

/-! ## Changes of a node -/

/-- A change that keeps the kind of a node, and that its attributes have different names. -/
structure Tree.KeepsNames (f : Tree Unit → Tree Unit) : Prop where
  isElement : ∀ t, (f t).isElement = t.isElement
  distinct : ∀ t : Tree Unit, t.Distinct → (f t).Distinct

namespace Tree

variable {f : Tree Unit → Tree Unit}

/-- Other attributes leave the kind of a node as it is. -/
lemma isElement_mapAttrs (t : Tree Unit) (g : List (String × String) → List (String × String)) :
    (t.mapAttrs g).isElement = t.isElement := by
  cases t <;> rfl

/-- Setting an attribute keeps different names. -/
lemma keepsNames_setAttr (name value : String) : KeepsNames (·.setAttr name value) :=
  ⟨fun t => t.isElement_mapAttrs _, fun _ h => h.setAttr name value⟩

/-- Removing an attribute keeps different names. -/
lemma keepsNames_removeAttr (name : String) : KeepsNames (·.removeAttr name) :=
  ⟨fun t => t.isElement_mapAttrs _, fun _ h => h.removeAttr name⟩

/-- Adding a class keeps different names. -/
lemma keepsNames_addClass (name : String) : KeepsNames (·.addClass name) where
  isElement t := by
    obtain ⟨g, e⟩ := exists_mapAttrs_addClass t name
    exact e ▸ t.isElement_mapAttrs g
  distinct _ h := h.addClass name

/-- Removing a class keeps different names. -/
lemma keepsNames_removeClass (name : String) : KeepsNames (·.removeClass name) where
  isElement t := by
    obtain ⟨g, e⟩ := exists_mapAttrs_removeClass t name
    exact e ▸ t.isElement_mapAttrs g
  distinct _ h := h.removeClass name

/-- Hiding or showing keeps different names. -/
lemma keepsNames_setHidden (hidden : Bool) : KeepsNames (·.setHidden hidden) :=
  ⟨fun t => by cases t <;> rfl, fun _ h => h.setHidden hidden⟩

end Tree

namespace NodeData

variable {strict : Prop} {data : NodeData} {children : List NodeId} {f : Tree Unit → Tree Unit}

/-- A node that is changed in this way stays of its kind. -/
lemma isElement_map (hf : Tree.KeepsNames f) (data : NodeData) :
    (data.map f).isElement = data.isElement := by
  have hkind := hf.isElement data.alone
  have hof (t : Tree Unit) : (ofTree t).isElement = t.isElement := by cases t <;> rfl
  have halone : data.alone.isElement = data.isElement := by cases data <;> rfl
  rw [map, hof, hkind, halone]

/-- A changed node fits what hangs from it. -/
lemma Fits.map (h : data.Fits strict children) (hf : Tree.KeepsNames f) :
    (data.map f).Fits strict children where
  names := by
    have halone : data.alone.Distinct := by
      cases data with
      | element tag attrs hidden => exact Tree.distinct_element.2 ⟨h.names, nofun⟩
      | text content => exact Tree.distinct_text () content
    have hof (t : Tree Unit) : (ofTree t).attrs = t.attrs := by cases t <;> rfl
    rw [NodeData.map, hof]
    exact (hf.distinct _ halone).attrs_nodup
  text hstrict he := h.text hstrict (isElement_map hf data ▸ he)

end NodeData

/-! ## Branches that are new, and branches that are exchanged -/

namespace Branch

variable {strict : Prop} {s : Supply} {C : Context} {r u : Branch} {rs : List Branch}

/-- One of several branches begins with the document node also when what fills a context is
exchanged for what begins with the same node. -/
lemma rooted_exchange (h : ∃ v ∈ C.plug r :: rs, v.label = root ∧ v.data.isElement = true)
    (hl : u.label = r.label) (he : u.data.isElement = r.data.isElement) :
    ∃ v ∈ C.plug u :: rs, v.label = root ∧ v.data.isElement = true := by
  obtain ⟨hl', he'⟩ := plug_top C hl he
  rw [List.exists_mem_cons_iff] at h ⊢
  rwa [hl', he']

/-- Tidy branches are tidy when what fills a context is exchanged for a tidy branch that begins with
the same node. -/
lemma tidy_exchange (h : ∀ v ∈ C.plug r :: rs, v.Tidy strict) (hl : u.label = r.label)
    (hu : u.Tidy strict) : ∀ v ∈ C.plug u :: rs, v.Tidy strict := by
  obtain ⟨hplug, hrs⟩ := List.forall_mem_cons.1 h
  exact List.forall_mem_cons.2 ⟨(tidy_plug hplug).2 u hl hu, hrs⟩

/-- Trees in which the attributes of each node have different names are tidy branches. -/
lemma tidy_branch {t : Tree NodeId} (h : t.Distinct) : t.branch.Tidy strict := by
  induction t using Tree.induct with
  | element n tag attrs hidden children ih =>
    obtain ⟨hattrs, hchildren⟩ := Tree.distinct_element.1 h
    rw [Tree.branch, Tree.branches_eq_map, tidy_node, List.forall_mem_map]
    refine ⟨⟨hattrs, fun _ hkind => ?_⟩, fun t ht => ih t ht (hchildren t ht)⟩
    cases hkind
  | text n content =>
    exact tidy_node.2 ⟨⟨List.nodup_nil, fun _ _ => rfl⟩, List.forall_mem_nil _⟩

/-- What is planted is tidy where the attributes of each node have different names. -/
lemma tidy_plantAll {ι : Type} {ts : List (Tree ι)} (h : ∀ t ∈ ts, t.Distinct) :
    ∀ r ∈ branches (s.plantAll ts).1, r.Tidy strict := by
  have hbare := Supply.plantAll_bare s ts
  rw [Stocked.relabelAll_eq_map, Stocked.relabelAll_eq_map] at hbare
  intro r hr
  rw [Tree.branches_eq_map, List.mem_map] at hr
  obtain ⟨u, hu, rfl⟩ := hr
  obtain ⟨t, ht, e⟩ := List.mem_map.1 (hbare ▸ List.mem_map_of_mem hu)
  exact tidy_branch ((Tree.distinct_relabel _ u).1 (e ▸ (Tree.distinct_relabel _ t).2 (h t ht)))

mutual

/-- A copy of a tidy branch is tidy. -/
lemma tidy_copy {s : Supply} {r : Branch} (h : r.Tidy strict) : (r.copy s).1.Tidy strict := by
  obtain ⟨n, data, children⟩ := r
  obtain ⟨hfits, hbelow⟩ := tidy_node.1 h
  refine tidy_node.2 ⟨⟨hfits.names, fun hstrict he => ?_⟩, tidy_copyAll hbelow⟩
  obtain rfl := List.map_eq_nil_iff.1 (hfits.text hstrict he)
  rfl

/-- Copies of tidy branches are tidy. -/
lemma tidy_copyAll {s : Supply} {rs : List Branch} (h : ∀ r ∈ rs, r.Tidy strict) :
    ∀ r ∈ (copyAll s rs).1, r.Tidy strict := by
  cases rs with
  | nil => exact nofun
  | cons r rs =>
    obtain ⟨hr, hlater⟩ := List.forall_mem_cons.1 h
    exact List.forall_mem_cons.2 ⟨tidy_copy hr, tidy_copyAll hlater⟩

end

end Branch

namespace Arena

variable {a a' : Arena} {n p : NodeId} {data : NodeData} {r u : Branch} {rs us rest : List Branch}
  {C : Branch.Context} {strict : Prop}

/-- A node that is taken out of the one above it stays what it is, and so do the others. -/
lemma data_of_detach? (e : a.detach? n = some a') (m : NodeId) :
    (a'.node? m).map Slot.data = (a.node? m).map Slot.data := by
  have hput {a : Arena} {n : NodeId} {s t : Slot} (hn : a.node? n = some s)
      (hdata : t.data = s.data) :
      ((a.put n (some t)).node? m).map Slot.data = (a.node? m).map Slot.data := by
    by_cases hm : m = n
    · subst hm
      simp [node?_put_self (index_lt_of_node? hn), hn, hdata]
    · rw [node?_put_of_ne hm]
  simp only [Arena.detach?, Option.bind_eq_bind, Option.bind_eq_some_iff] at e
  obtain ⟨s, hs, e⟩ := e
  split at e
  · cases e
    rfl
  · simp only [Arena.modify?, Option.map_eq_some_iff] at e
    obtain ⟨t, ht, rfl⟩ := e
    refine (hput ht ?_).trans (hput hs rfl)
    rfl

namespace Orderly

/-- A branch in the place of another one that begins with the same node keeps an arena in order. -/
lemma exchange (h : a.Orderly strict (C.plug r :: rest)) (h' : a'.Represents (C.plug u :: rest))
    (hl : u.label = r.label) (he : u.data.isElement = r.data.isElement) (hu : u.Tidy strict) :
    a'.Orderly strict (C.plug u :: rest) where
  toRepresents := h'
  rooted := Branch.rooted_exchange h.rooted hl he
  tidy := Branch.tidy_exchange h.tidy hl hu

/-- A new branch keeps an arena in order. -/
lemma cons (h : a.Orderly strict rs) (h' : a'.Represents (r :: rs)) (hr : r.Tidy strict) :
    a'.Orderly strict (r :: rs) where
  toRepresents := h'
  rooted := List.exists_mem_cons_of_exists h.rooted
  tidy := List.forall_mem_cons.2 ⟨hr, h.tidy⟩

/-- The node that fills a context fits what hangs from it, and its branches are tidy. -/
lemma tidy_inside (h : a.Orderly strict (C.plug (.node n data rs) :: rest)) :
    data.Fits strict (rs.map Branch.label) ∧ ∀ r ∈ rs, r.Tidy strict :=
  Branch.tidy_node.1 (Branch.tidy_plug (h.tidy _ List.mem_cons_self)).1

/-- A change of a node keeps an arena in order. -/
lemma change? (h : a.Orderly strict rs) (hn : (a.node? n).isSome) {f : Tree Unit → Tree Unit}
    (hf : Tree.KeepsNames f) : ∃ a' us, a.change? n f = some a' ∧ a'.Orderly strict us := by
  obtain ⟨C, data, us, rest, h'⟩ := h.exists_plug hn
  obtain ⟨a', e, hrep, -⟩ := h'.toRepresents.change? f
  obtain ⟨hfits, hbelow⟩ := h'.tidy_inside
  exact ⟨a', _, e, h'.exchange hrep rfl (NodeData.isElement_map hf data)
    (Branch.tidy_node.2 ⟨hfits.map hf, hbelow⟩)⟩

/-- A node that is taken out begins a branch of its own, from all of whose nodes the links led to
it. -/
lemma detach? (h : a.Orderly strict rs) (hn : (a.node? n).isSome) :
    ∃ a' r us, a.detach? n = some a' ∧ r.label = n ∧ a'.Orderly strict (r :: us) ∧
      (idsOf (r :: us)).Perm (idsOf rs) ∧ ∀ m ∈ r.ids, ReflTransGen a.HangsFrom m n := by
  obtain ⟨C, r, rest, h', rfl, hp⟩ := h.toRepresents.exists_plug hn
  have hord := h.perm hp.symm
  have hreach := fun m hm => h'.reaches_of_mem (n := m) hm
  cases C with
  | top => exact ⟨a, r, rest, h'.detach?_top, rfl, hord, Branch.idsOf_perm hp, hreach⟩
  | inside outer m data before after =>
    have hmid : a.Orderly strict (outer.plug (.node m data (before ++ r :: after)) :: rest) := hord
    obtain ⟨a', e, hrep, -⟩ := hmid.toRepresents.detach?
    obtain ⟨hfits, hbelow⟩ := hmid.tidy_inside
    have hr := hbelow r (by simp)
    have hleft : (Branch.node m data (before ++ after)).Tidy strict := by
      refine Branch.tidy_node.2 ⟨⟨hfits.names, fun hstrict he => ?_⟩, fun u hu => hbelow u ?_⟩
      · simpa using hfits.text hstrict he
      · rcases List.mem_append.1 hu with hu | hu <;> simp [hu]
    have hrep' := hrep.perm (List.Perm.swap ..)
    refine ⟨a', r, _, e, rfl, ⟨hrep', ?_, ?_⟩, ?_, hreach⟩
    · exact List.exists_mem_cons_of_exists (Branch.rooted_exchange hmid.rooted rfl rfl)
    · exact List.forall_mem_cons.2 ⟨hr, Branch.tidy_exchange hmid.tidy rfl hleft⟩
    · refine .trans (List.perm_iff_count.2 fun x => ?_) (Branch.idsOf_perm hp)
      simp only [Branch.Context.plug, Branch.idsOf_cons, List.count_append,
        (Branch.ids_plug outer _).count_eq, Branch.ids_node, Branch.idsOf_append]
      omega

/-- A node that is removed leaves an arena in order. -/
lemma remove? (h : a.Orderly strict rs) (hn : (a.node? n).isSome) (hroot : n ≠ root) :
    ∃ a' us, a.remove? n = some a' ∧ a'.Orderly strict us := by
  obtain ⟨a₁, r, us, e, rfl, h₁, -, -⟩ := h.detach? hn
  obtain ⟨a', e', hrep, -⟩ := Represents.remove?_of_detach? e h₁.toRepresents
  refine ⟨a', us, e', hrep, ?_, (List.forall_mem_cons.1 h₁.tidy).2⟩
  exact ((List.exists_mem_cons_iff _ _ _).1 h₁.rooted).resolve_left fun hr => hroot hr.1

/-- A node that is put below another one leaves an arena in order. -/
lemma append? (h : a.Orderly strict rs) (hp : (a.node? p).isSome) (hn : (a.node? n).isSome)
    (hroot : n ≠ root) (hbelow : ¬ ReflTransGen a.HangsFrom p n)
    (hfill : strict → ∀ s ∈ a.node? p, s.data.isElement = true) :
    ∃ a' us, a.append? p n = some a' ∧ a'.Orderly strict us := by
  obtain ⟨a₁, r, us, e, rfl, h₁, hids, hreach⟩ := h.detach? hn
  -- the node that is filled does not belong to the branch that was taken out
  have hmem : p ∈ idsOf us := by
    have hall := hids.mem_iff.2 (h.node?_isSome.1 hp)
    rw [Branch.idsOf_cons, List.mem_append] at hall
    exact hall.resolve_left fun hm => hbelow (hreach p hm)
  obtain ⟨before, C, u, after, rfl, hu⟩ := Branch.exists_plugOf hmem
  obtain ⟨q, data, children⟩ := u
  obtain rfl : q = p := hu
  have h₂ : a₁.Orderly strict (C.plug (.node q data children) :: r :: (before ++ after)) :=
    h₁.perm ((List.perm_middle.cons r).trans (List.Perm.swap ..))
  obtain ⟨a', e', hrep, -⟩ := Represents.append?_of_detach? e h₂.toRepresents
  have hr := (List.forall_mem_cons.1 h₁.tidy).1
  obtain ⟨hfits, hchildren⟩ := h₂.tidy_inside
  have helement (hstrict : strict) : data.isElement = true := by
    have hdata := data_of_detach? e q
    rw [show a₁.node? q = _ from h₂.node?_plug] at hdata
    obtain ⟨s, hs, hsame⟩ := Option.map_eq_some_iff.1 hdata.symm
    have hsdata : s.data = data := hsame
    exact hsdata ▸ hfill hstrict s hs
  have hfilled : (Branch.node q data (children ++ [r])).Tidy strict := by
    refine Branch.tidy_node.2 ⟨⟨hfits.names, fun hstrict he => ?_⟩, fun u hu => ?_⟩
    · rw [helement hstrict] at he
      cases he
    · rcases List.mem_append.1 hu with hu | hu
      · exact hchildren u hu
      · exact List.mem_singleton.1 hu ▸ hr
  -- neither the document node nor anything that is not tidy was taken out
  have h₃ := h₂.perm (List.Perm.swap ..)
  have hothers := ((List.exists_mem_cons_iff _ _ _).1 h₃.rooted).resolve_left fun hr => hroot hr.1
  exact ⟨a', _, e', hrep, Branch.rooted_exchange hothers rfl rfl,
    Branch.tidy_exchange (List.forall_mem_cons.1 h₃.tidy).2 rfl hfilled⟩

/-- Branches that are removed from the node that they hang from leave an arena in order. -/
lemma removeChildrenWhere? (h : a.Orderly strict rs) (hn : (a.node? n).isSome)
    (test : NodeData → Bool) :
    ∃ a' us, a.removeChildrenWhere? n test = some a' ∧ a'.Orderly strict us := by
  obtain ⟨C, data, us, rest, h'⟩ := h.exists_plug hn
  obtain ⟨a', e, hrep, -⟩ := h'.toRepresents.removeChildrenWhere? test
  obtain ⟨hfits, hbelow⟩ := h'.tidy_inside
  refine ⟨a', _, e, h'.exchange hrep rfl rfl (Branch.tidy_node.2
    ⟨⟨hfits.names, fun hstrict he => ?_⟩, fun u hu => hbelow u (List.mem_filter.1 hu).1⟩)⟩
  obtain rfl := List.map_eq_nil_iff.1 (hfits.text hstrict he)
  rfl

/-- Tidy branches in the place of those that hang from a node leave an arena in order, if the node
is an element where that is asked for. -/
lemma fill (h : a.Orderly strict (C.plug (.node n data rs) :: rest))
    (hrep : a'.Represents (C.plug (.node n data us) :: rest)) (hus : ∀ u ∈ us, u.Tidy strict)
    (hfill : strict → ∀ s ∈ a.node? n, s.data.isElement = true) :
    a'.Orderly strict (C.plug (.node n data us) :: rest) := by
  refine h.exchange hrep rfl rfl (Branch.tidy_node.2
    ⟨⟨h.tidy_inside.1.names, fun hstrict he => ?_⟩, hus⟩)
  have helement := hfill hstrict _ h.node?_plug
  exact absurd helement (by simpa [Branch.data] using he)

/-- A copy leaves an arena in order. -/
lemma clone? (h : a.Orderly strict rs) (hn : (a.node? n).isSome) (deep : Bool) :
    ∃ copy a' us, a.clone? n deep = some (copy, a') ∧ a'.Orderly strict us := by
  obtain ⟨C, data, us, rest, h'⟩ := h.exists_plug hn
  obtain ⟨a', e, hrep, -⟩ := h'.toRepresents.clone? deep
  obtain ⟨hfits, hbelow⟩ := h'.tidy_inside
  -- a copy may leave out what hangs from the node
  have hcopied : (Branch.node n data (if deep then us else [])).Tidy strict := by
    refine Branch.tidy_node.2 ?_
    split
    · exact ⟨hfits, hbelow⟩
    · exact ⟨⟨hfits.names, fun _ _ => rfl⟩, List.forall_mem_nil _⟩
  exact ⟨_, a', _, e, h'.cons hrep (Branch.tidy_copy hcopied)⟩

/-- A new element leaves an arena in order. -/
lemma create (h : a.Orderly strict rs) (tag : String) :
    ∃ us, (a.create tag).2.Orderly strict us := by
  obtain ⟨a', e, hrep, -⟩ := h.toRepresents.alloc (.element tag [] false)
  have hnew : (Branch.node a.supply.take.1 (.element tag [] false) []).Tidy strict := by
    refine Branch.tidy_node.2 ⟨⟨List.nodup_nil, fun _ _ => rfl⟩, List.forall_mem_nil _⟩
  rw [Arena.create, e]
  exact ⟨_, h.cons hrep hnew⟩

/-- An operation that is in order can be done, and leaves an arena in order. -/
theorem run? {op : Operation} (h : a.Orderly strict rs) (hop : a.InOrder op)
    (hfill : strict → a.FillsElement op) :
    ∃ a' us, a.run? op = some a' ∧ a'.Orderly strict us := by
  cases op with
  | setAttr n name value => exact h.change? hop (Tree.keepsNames_setAttr name value)
  | removeAttr n name => exact h.change? hop (Tree.keepsNames_removeAttr name)
  | addClass n name => exact h.change? hop (Tree.keepsNames_addClass name)
  | removeClass n name => exact h.change? hop (Tree.keepsNames_removeClass name)
  | append parent child => exact h.append? hop.1 hop.2.1 hop.2.2.1 hop.2.2.2 hfill
  | removeChildren n => exact h.removeChildrenWhere? hop _
  | detach n =>
    obtain ⟨a', r, us, e, -, h', -, -⟩ := h.detach? hop
    exact ⟨a', r :: us, e, h'⟩
  | remove n => exact h.remove? hop.1 hop.2
  | clone n deep =>
    obtain ⟨copy, a', us, e, h'⟩ := h.clone? hop deep
    exact ⟨a', us, by rw [Arena.run?, e]; rfl, h'⟩
  | setText n content =>
    obtain ⟨C, data, us, rest, h'⟩ := h.exists_plug hop
    obtain ⟨a', e, hrep, -⟩ := h'.toRepresents.setText? content
    exact ⟨a', _, e, h'.fill hrep (Branch.tidy_plantAll (by simp)) hfill⟩
  | removeText n => exact h.removeChildrenWhere? hop _
  | setMarkup n markup =>
    obtain ⟨C, data, us, rest, h'⟩ := h.exists_plug hop
    obtain ⟨a', e, hrep, -⟩ := h'.toRepresents.setMarkup? markup
    refine ⟨a', _, by rw [Arena.run?, e]; rfl, h'.fill hrep ?_ hfill⟩
    cases (Markup.read markup).fault? with
    | none => exact Branch.tidy_plantAll (Markup.distinct_read markup)
    | some fault => exact nofun
  | create tag =>
    obtain ⟨us, h'⟩ := h.create tag
    exact ⟨_, us, rfl, h'⟩
  | setHidden n hidden => exact h.change? hop (Tree.keepsNames_setHidden hidden)

/-- Operations that are in order, one after another, can be done and leave an arena in order. -/
lemma runAll? {ops : List Operation} (h : a.Orderly strict rs) (hops : a.Throughout InOrder ops)
    (hfill : strict → a.Throughout FillsElement ops) :
    ∃ a' us, a.runAll? ops = some a' ∧ a'.Orderly strict us := by
  induction ops generalizing a rs with
  | nil => exact ⟨a, rs, rfl, h⟩
  | cons op ops ih =>
    obtain ⟨a₁, us, e, h₁⟩ := h.run? hops.1 fun hstrict => (hfill hstrict).1
    obtain ⟨a', us', e', h'⟩ := ih h₁ (hops.2 a₁ e) fun hstrict => (hfill hstrict).2 a₁ e
    exact ⟨a', us', by rw [Arena.runAll?, e]; exact e', h'⟩

/-- The arena of a document without any content is in order. -/
lemma empty : ∃ rs, Arena.empty.Orderly strict rs :=
  ⟨_, Represents.empty, ⟨_, List.mem_singleton_self _, rfl, rfl⟩, fun r hr => by
    rw [List.mem_singleton.1 hr]
    exact Branch.tidy_node.2 ⟨⟨List.nodup_nil, nofun⟩, nofun⟩⟩

/-- A document that was read is in order. -/
lemma parse? {markup : String} (h : Arena.parse? markup = some (.ok a)) :
    ∃ rs, a.Orderly strict rs := by
  obtain ⟨a', e, hrep, -⟩ := Represents.parse? markup
  rw [e] at h
  cases hfault : (Markup.read markup).fault? with
  | none =>
    rw [hfault] at h
    cases h
    refine ⟨_, hrep, ⟨_, List.mem_singleton_self _, rfl, rfl⟩, fun r hr => ?_⟩
    rw [List.mem_singleton.1 hr]
    exact Branch.tidy_node.2 ⟨⟨List.nodup_nil, nofun⟩,
      Branch.tidy_plantAll (Markup.distinct_read markup)⟩
  | some fault =>
    rw [hfault] at h
    cases h

end Orderly

end Arena

/-! ## Operations one after another -/

variable {a : Arena} {ops : List Operation}

/-- The arena of an empty document and that of one that was read stay well formed under operations,
and the operations can all be done. Nothing hangs from a text if none was filled. -/
theorem arena_wellFormed (ha : a = .empty ∨ ∃ markup, Arena.parse? markup = some (.ok a))
    (hops : a.Throughout Arena.InOrder ops) :
    ∃ a', a.runAll? ops = some a' ∧ a'.WellFormed ∧
      (a.Throughout Arena.FillsElement ops → a'.BareTexts) := by
  have hstart : ∃ rs, a.Orderly (a.Throughout Arena.FillsElement ops) rs := by
    rcases ha with rfl | ⟨markup, h⟩
    · exact Arena.Orderly.empty
    · exact Arena.Orderly.parse? h
  obtain ⟨rs, h⟩ := hstart
  obtain ⟨a', us, e, h'⟩ := h.runAll? hops id
  exact ⟨a', e, h'.wellFormed, h'.bareTexts⟩

/-- A list is made, an item of it is copied, and the first one is removed, whose slots are given out
again. -/
theorem arena_wellFormed_copy :
    let ops : List Operation := [.create "ul", .append root ⟨1⟩, .setMarkup ⟨1⟩ "<li>a</li>",
      .clone ⟨2⟩ true, .append ⟨1⟩ ⟨4⟩, .remove ⟨2⟩, .setMarkup ⟨4⟩ "<b>", .setText ⟨4⟩ "c"]
    Arena.empty.Throughout Arena.InOrder ops ∧
      ∃ a, Arena.empty.runAll? ops = some a ∧ a.WellFormed ∧ a.BareTexts := by
  intro ops
  have hops : Arena.empty.Throughout Arena.InOrder ops :=
    Arena.Throughout.mono Arena.inOrder_of_allows (by decide +kernel)
  have hfill : Arena.empty.Throughout Arena.FillsElement ops := by decide +kernel
  obtain ⟨a, e, h, htexts⟩ := arena_wellFormed (.inl rfl) hops
  exact ⟨hops, a, e, h, htexts hfill⟩

/-- The identity of an element is kept when the element is removed, and a text gets its slot.
Another element is then put below the text. -/
theorem arena_crowded :
    let ops : List Operation := [.create "i", .remove ⟨1⟩, .setText root "t", .create "b",
      .append ⟨1⟩ ⟨2⟩]
    Arena.empty.Throughout Arena.InOrder ops ∧
      ∃ a, Arena.empty.runAll? ops = some a ∧ ¬ a.BareTexts := by
  intro ops
  have hops : Arena.empty.Throughout Arena.InOrder ops :=
    Arena.Throughout.mono Arena.inOrder_of_allows (by decide +kernel)
  refine ⟨hops, ?_⟩
  have hleft : (Arena.empty.runAll? ops).bind (·.node? ⟨1⟩) =
      some ⟨some root, .text "t", [⟨2⟩]⟩ := by decide +kernel
  obtain ⟨a, e, hn⟩ := Option.bind_eq_some_iff.1 hleft
  exact ⟨a, e, fun h => nomatch h ⟨1⟩ _ hn rfl⟩

end TreeTemplate
