import TreeTemplate.Proofs.Arena.Growing

/-!
# Reading markup into an arena

Markup is read into an arena one event after another. A node is put below the innermost element that
is open as soon as it begins, and stays where it is when the element ends. What the arena holds in
the end are the trees of the markup, planted in one piece.

An invariant goes along with the events: the nodes that were read so far are planted, those before
each open element in front of it, and the innermost open element is the place where the next one is
put.

Main statements:

* `Growing.exists_step?` — what an event puts into the arena;
* `Arena.Represents.read?` — what markup puts below a node;
* `Arena.Represents.setMarkup?` — markup in the place of everything below a node.
-/

namespace TreeTemplate

open TreeTemplate.Markup (Bare Event OpenElement)

mutual

/-- A tree as a branch. -/
def Tree.branch : Tree NodeId → Branch
  | .element n tag attrs hidden children => .node n (.element tag attrs hidden) (branches children)
  | .text n content => .node n (.text content) []

/-- Trees side by side as branches. -/
def Tree.branches : List (Tree NodeId) → List Branch
  | [] => []
  | t :: ts => t.branch :: branches ts

end

open TreeTemplate.Tree (branches)

/-- Several trees as branches, one by one. -/
lemma Tree.branches_eq_map (ts : List (Tree NodeId)) : branches ts = ts.map Tree.branch := by
  induction ts with
  | nil => rfl
  | cons t ts ih => rw [branches, ih, List.map_cons]

/-- Trees are planted in two parts. -/
lemma Supply.plantAll_append {ι : Type} (s : Supply) (first later : List (Tree ι)) :
    s.plantAll (first ++ later) =
      ((s.plantAll first).1 ++ ((s.plantAll first).2.plantAll later).1,
        ((s.plantAll first).2.plantAll later).2) := by
  induction first generalizing s with
  | nil => rfl
  | cons t first ih => simp only [List.cons_append, Supply.plantAll, ih]

/-! ## The place that was reached -/

/-- A place in a branch where nodes are read: a node that fills a context, and the supply from which
what hangs from it gets its identities. -/
structure GrowthPlace where
  context : Branch.Context
  label : NodeId
  data : NodeData
  supply : Supply

namespace GrowthPlace

variable {P : GrowthPlace}

/-- What is there when some trees have been read, the last first, and what is left of the supply. -/
def filled (P : GrowthPlace) (siblings : List Bare) : Branch × Supply :=
  let planted := P.supply.plantAll siblings.reverse
  (P.context.plug (.node P.label P.data (branches planted.1)), planted.2)

/-- The place inside an element that is open, behind the trees before it. -/
def enter (P : GrowthPlace) (o : OpenElement) : GrowthPlace :=
  let planted := P.supply.plantAll o.before.reverse
  ⟨.inside P.context P.label P.data (branches planted.1) [], planted.2.take.1,
    .element o.tag o.attrs false, planted.2.take.2⟩

/-- The place inside open elements, the innermost first. -/
def inside (P : GrowthPlace) : List OpenElement → GrowthPlace
  | [] => P
  | o :: around => (P.inside around).enter o

/-- The identities of open elements, the innermost first. -/
def labels (P : GrowthPlace) : List OpenElement → List NodeId
  | [] => []
  | o :: around => (P.inside (o :: around)).label :: P.labels around

/-- The node at the place inside open elements is the innermost one. -/
lemma headD_labels (P : GrowthPlace) (opened : List OpenElement) :
    (P.labels opened).headD P.label = (P.inside opened).label := by
  cases opened <;> rfl

/-- One tree more at a place, that begins with a text or an element without anything below it. -/
lemma filled_cons (P : GrowthPlace) (siblings : List Bare) (data : NodeData) :
    P.filled (data.alone :: siblings) =
      (P.context.plug (.node P.label P.data (branches (P.supply.plantAll siblings.reverse).1 ++
        [.node (P.filled siblings).2.take.1 data []])), (P.filled siblings).2.take.2) := by
  cases data <;>
    simp [filled, NodeData.alone, NodeData.tree, Supply.plantAll_append, Supply.plantAll,
      Supply.plant, Tree.branches_eq_map, Tree.branch]

/-- What was read inside an element stays where it is when the element ends. -/
lemma filled_enter (P : GrowthPlace) (o : OpenElement) (siblings : List Bare) :
    (P.enter o).filled siblings =
      P.filled (.element () o.tag o.attrs false siblings.reverse :: o.before) := by
  simp [filled, enter, Supply.plantAll_append, Supply.plantAll, Supply.plant,
    Tree.branches_eq_map, Tree.branch, Branch.Context.plug]

/-- What was read inside open elements stays where it is when they end. -/
lemma filled_inside (P : GrowthPlace) (opened : List OpenElement) (siblings : List Bare) :
    (P.inside opened).filled siblings =
      P.filled (Markup.Reading.close siblings opened).reverse := by
  induction opened generalizing siblings with
  | nil => simp [inside, Markup.Reading.close]
  | cons o around ih => rw [inside, filled_enter, ih, Markup.Reading.close]

end GrowthPlace

/-! ## Events -/

namespace Arena

variable {a : Arena} {P : GrowthPlace} {rest : List Branch} {g : Growing} {r : Markup.Reading}

/-- An arena into which markup is read holds what has been read so far. -/
structure Growing.Follows (P : GrowthPlace) (rest : List Branch) (g : Growing)
    (r : Markup.Reading) :
    Prop where
  opened : g.opened = P.labels r.opened
  represents : g.arena.Represents (((P.inside r.opened).filled r.siblings).1 :: rest)
  supply : g.arena.supply = ((P.inside r.opened).filled r.siblings).2

namespace Growing

/-- A new node at the place that was reached. -/
lemma Follows.grow? (h : g.Follows P rest r) (data : NodeData) :
    ∃ n a', g.grow? P.label data = some (n, { g with arena := a' }) ∧
      n = ((P.inside r.opened).filled r.siblings).2.take.1 ∧
      a'.Represents (((P.inside r.opened).filled (data.alone :: r.siblings)).1 :: rest) ∧
      a'.supply = ((P.inside r.opened).filled (data.alone :: r.siblings)).2 := by
  obtain ⟨a', e, h', hsupply⟩ := h.represents.grow? data
  rw [h.supply] at e h' hsupply
  rw [GrowthPlace.filled_cons]
  refine ⟨_, a', ?_, rfl, h', hsupply⟩
  rw [Growing.grow?, h.opened, GrowthPlace.headD_labels, e]
  rfl

/-- What an event puts into an arena. -/
lemma exists_step? (h : g.Follows P rest r) (event : Event) :
    ∃ g', g.step? P.label event = some g' ∧ g'.Follows P rest (r.apply event) := by
  match event with
  | .text content =>
    obtain ⟨n, a', e, -, h', hsupply⟩ := h.grow? (.text content)
    exact ⟨{ g with arena := a' }, by rw [step?, e]; rfl, h.opened, h', hsupply⟩
  | .start tag attrs true =>
    obtain ⟨n, a', e, -, h', hsupply⟩ := h.grow? (.element tag attrs false)
    exact ⟨{ g with arena := a' }, by rw [step?, e]; rfl, h.opened, h', hsupply⟩
  | .start tag attrs false =>
    obtain ⟨n, a', e, hn, h', hsupply⟩ := h.grow? (.element tag attrs false)
    -- the element is entered, and nothing has been read inside it
    have hentered := GrowthPlace.filled_enter (P.inside r.opened) ⟨tag, attrs, r.siblings⟩ []
    refine ⟨⟨a', n :: g.opened⟩, by rw [step?, e]; rfl, ?_, ?_, ?_⟩
    · rw [h.opened, hn]
      rfl
    · exact hentered ▸ h'
    · exact hsupply.trans (congrArg Prod.snd hentered).symm
  | .stop =>
    refine ⟨{ g with opened := g.opened.tail }, rfl, ?_⟩
    obtain ⟨siblings, opened⟩ := r
    cases opened with
    | nil => exact ⟨by rw [h.opened]; rfl, h.represents, h.supply⟩
    | cons o around =>
      have hended := GrowthPlace.filled_enter (P.inside around) o siblings
      exact ⟨by rw [h.opened]; rfl, hended ▸ h.represents, hended ▸ h.supply⟩
  | .pass => exact ⟨g, rfl, h⟩

/-- What events put into an arena one after another. -/
lemma exists_foldlM_step? (h : g.Follows P rest r) (events : List Event) :
    ∃ g', events.foldlM (step? P.label) g = some g' ∧
      g'.Follows P rest (events.foldl Markup.Reading.apply r) := by
  induction events generalizing g r with
  | nil => exact ⟨g, rfl, h⟩
  | cons event events ih =>
    obtain ⟨g₁, e₁, h₁⟩ := exists_step? h event
    obtain ⟨g', e', h'⟩ := ih h₁
    exact ⟨g', by rw [List.foldlM_cons, e₁]; exact e', h'⟩

end Growing

namespace Represents

variable {n : NodeId} {data : NodeData} {rs : List Branch} {C : Branch.Context}

/-- Markup is read, and the trees that it holds are planted below a node that had nothing below
it. -/
lemma read? (h : a.Represents (C.plug (.node n data []) :: rest)) (markup : String) :
    let planted := a.supply.plantAll (Markup.read markup).trees
    ∃ a', a.read? n markup = some (a', (Markup.read markup).fault?) ∧
      a'.Represents (C.plug (.node n data (branches planted.1)) :: rest) ∧
      a'.supply = planted.2 := by
  let P : GrowthPlace := ⟨C, n, data, a.supply⟩
  have hstart : Growing.Follows P rest ⟨a, []⟩ {} := ⟨rfl, h, rfl⟩
  obtain ⟨g, e, hg⟩ := Growing.exists_foldlM_step? hstart (Markup.events markup).1
  refine ⟨g.arena, ?_, ?_, ?_⟩
  · simp only [Arena.read?, Option.bind_eq_bind]
    rw [show (Markup.events markup).1.foldlM (Growing.step? n) ⟨a, []⟩ = some g from e]
    rfl
  · have hfilled := hg.represents
    rw [GrowthPlace.filled_inside, GrowthPlace.filled, List.reverse_reverse] at hfilled
    exact hfilled
  · have hfilled := hg.supply
    rw [GrowthPlace.filled_inside, GrowthPlace.filled, List.reverse_reverse] at hfilled
    exact hfilled

/-- What is left where markup was read: the trees that it holds, or nothing if something is wrong
with it. -/
def left (fault? : Option Markup.Fault) (planted : List (Tree NodeId) × Supply) :
    List (Tree NodeId) × Supply :=
  match fault? with
  | none => planted
  | some _ => ([], planted.2.give (Branch.idsOf (branches planted.1)))

/-- What markup holds takes the place of everything below a node, or nothing is left there. -/
lemma setMarkup? (h : a.Represents (C.plug (.node n data rs) :: rest)) (markup : String) :
    let content := Markup.read markup
    let kept := left content.fault? ((a.supply.give (Branch.idsOf rs)).plantAll content.trees)
    ∃ a', a.setMarkup? n markup = some (a', content.fault?) ∧
      a'.Represents (C.plug (.node n data (branches kept.1)) :: rest) ∧ a'.supply = kept.2 := by
  obtain ⟨a₁, e₁, h₁, hsupply₁⟩ := h.removeChildren?
  obtain ⟨a₂, e₂, h₂, hsupply₂⟩ := h₁.read? markup
  rw [hsupply₁] at h₂ hsupply₂
  generalize Markup.read markup = content at *
  obtain ⟨trees, fault?⟩ := content
  cases fault? with
  | none =>
    refine ⟨a₂, ?_, h₂, hsupply₂⟩
    simp only [Arena.setMarkup?, e₁, e₂, Option.bind_eq_bind, Option.bind_some]
  | some fault =>
    obtain ⟨a₃, e₃, h₃, hsupply₃⟩ := h₂.removeChildren?
    refine ⟨a₃, ?_, h₃, by rw [hsupply₃, hsupply₂]; rfl⟩
    simp only [Arena.setMarkup?, e₁, e₂, e₃, Option.bind_eq_bind, Option.bind_some]

/-- A text takes the place of everything below a node. -/
lemma setText? (h : a.Represents (C.plug (.node n data rs) :: rest)) (content : String) :
    let planted := (a.supply.give (Branch.idsOf rs)).plantAll [Tree.text () content]
    ∃ a', a.setText? n content = some a' ∧
      a'.Represents (C.plug (.node n data (branches planted.1)) :: rest) ∧
      a'.supply = planted.2 := by
  obtain ⟨a₁, e₁, h₁, hsupply₁⟩ := h.removeChildren?
  obtain ⟨a₂, e₂, h₂, hsupply₂⟩ := h₁.grow? (.text content)
  rw [hsupply₁] at h₂ hsupply₂
  refine ⟨a₂, ?_, h₂, hsupply₂⟩
  rw [Arena.setText?, e₁, Option.bind_eq_bind, Option.bind_some, e₂]
  rfl

/-- The arena of a document without any content holds the document node. -/
lemma empty :
    Arena.empty.Represents [.node Document.root (.element "#document" [] false) []] := by
  have hstart : ({} : Arena).Represents [] := ⟨⟨.nil, fun n s => by simp [Arena.node?]⟩, .refl _⟩
  obtain ⟨a', e, h, -⟩ := hstart.alloc (.element "#document" [] false)
  rw [Arena.empty, e]
  exact h

/-- A document that is read has the trees of the markup below the document node. -/
lemma parse? (markup : String) :
    let planted := Arena.empty.supply.plantAll (Markup.read markup).trees
    ∃ a', Arena.parse? markup = some (match (Markup.read markup).fault? with
        | none => .ok a'
        | some fault => .error fault) ∧
      a'.Represents [.node Document.root (.element "#document" [] false) (branches planted.1)] ∧
      a'.supply = planted.2 := by
  have hstart : Arena.empty.Represents
      [Branch.Context.top.plug (.node Document.root (.element "#document" [] false) [])] := empty
  obtain ⟨a', e, h, hsupply⟩ := hstart.read? markup
  refine ⟨a', ?_, h, hsupply⟩
  rw [Arena.parse?, e]
  cases (Markup.read markup).fault? <;> rfl

end Represents

end Arena

end TreeTemplate
