import TreeTemplate.Proofs.Follow.Inject
import TreeTemplate.Proofs.Paths.Ordered
import Mathlib.Logic.Relation

/-!
# Visits of an injection

An injection goes from element to element, each time with a scope and in the state that it has
reached. Such a visit leads to others: to the target of a jump, to the elements below when those
before them have been walked, and to the copies that a list or a map makes when those before them
have been walked.

Wherever no element is left by a jump, every visit finds its element as one that can be entered.

Main statements:

* `Setting.inject_succ` — what is done at an element, step by step;
* `Visit.Finds.leads` — what a visit finds, the visits that it leads to find as well;
* `Visit.Finds.fills` — what is found when an element is filled.
-/

namespace TreeTemplate

/-- What is done at an element once its attributes are set. -/
inductive Turn where
  /-- Another element is walked in its place. -/
  | jump (target : NodeId)
  /-- Nothing is done below it. -/
  | leave
  /-- It is filled by an operator, if there is one, and the elements below it are walked. -/
  | fill (content? : Option (ContentOperator × String))
deriving DecidableEq

namespace Setting

/-- Sets the attributes of an element and decides whether it is shown, unless the scope is null. -/
def dress (c : Setting) (n : NodeId) (ds : Directives) (scope : Value) : Walk Bool :=
  if scope.isNull then pure true else c.decorate n ds scope

/-- Sets the attributes of an element and finds out what is done there. -/
def arrive (c : Setting) (n : NodeId) (scope : Value) (isItem : Bool) : Walk Turn := do
  let ds ← Walk.directives c.engine.dialect n
  match ← Walk.jumpTarget ds with
  | some target => return .jump target
  | none =>
    if ← c.dress n ds scope then return .fill (← Walk.contentOperator n ds isItem)
    else return .leave

/-- Does what is to be done at an element. -/
def goOn (c : Setting) (walk : ElementWalk) (n : NodeId) (scope : Value) : Turn → Walk Unit
  | .jump target => walk target scope false
  | .leave => pure ()
  | .fill content? => do
    let inner? ← Walk.inner c walk n scope content?
    Walk.descend walk n inner?

/-- An injection finds out what is done at an element, and does it. -/
lemma inject_succ (c : Setting) (room : Nat) (n : NodeId) (scope : Value) (isItem : Bool) :
    c.inject (room + 1) n scope isItem = Walk.deeper (do
      let turn ← c.arrive n scope isItem
      c.goOn (c.inject room) n scope turn) := by
  unfold inject arrive injectDirectives
  simp only [bind_assoc]
  congr 1
  refine bind_congr (m := Walk) fun ds => bind_congr (m := Walk) fun target? => ?_
  cases target? with
  | some target => rw [pure_bind]; rfl
  | none =>
    dsimp only [dress]
    split
    · simp only [pure_bind, if_true, bind_assoc, goOn, fill_eq]
    · simp only [bind_assoc]
      refine bind_congr (m := Walk) fun goesOn => ?_
      cases goesOn with
      | true => simp only [if_true, bind_assoc, pure_bind, goOn, fill_eq]
      | false => simp only [Bool.false_eq_true, if_false, pure_bind, goOn]

end Setting

/-- An element that an injection comes to, with the state that it has reached. There is room for as
many elements inside one another. -/
structure Visit where
  room : Nat
  node : NodeId
  scope : Value
  isItem : Bool
  state : Walk.State

/-- A state in which a list or a map begins to count. -/
def Walk.State.counting (ordered : Bool) (s : Walk.State) : Walk.State :=
  if ordered then { s with positions := 0 :: s.positions } else s

namespace Visit

variable {c : Setting} {v w : Visit}

/-- A visit comes to fill its element by an operator, if there is one, in a state. -/
def Fills (c : Setting) (v : Visit) (room : Nat) (content? : Option (ContentOperator × String))
    (s : Walk.State) : Prop :=
  v.room = room + 1 ∧ c.arrive v.node v.scope v.isItem
    { v.state with depth := v.state.depth + 1 } = (.ok (.fill content?), s)

/-- A visit leads to another one. -/
inductive Leads (c : Setting) : Visit → Visit → Prop
  /-- The element that is walked in place of this one. -/
  | jump {v : Visit} {room : Nat} {target : NodeId} {s : Walk.State} (hroom : v.room = room + 1)
    (h : c.arrive v.node v.scope v.isItem { v.state with depth := v.state.depth + 1 } =
      (.ok (.jump target), s)) :
    Leads c v ⟨room, target, v.scope, false, s⟩
  /-- An element below, when those before it have been walked. -/
  | below {v : Visit} {room : Nat} {content? : Option (ContentOperator × String)}
    {s s₁ s₂ : Walk.State} {inner : Value} {t child : Tree NodeId}
    {before after : List (Tree NodeId)} (h : v.Fills c room content? s)
    (hinner : Walk.inner c (c.inject room) v.node v.scope content? s = (.ok (some inner), s₁))
    (ht : s₁.document.find? v.node = some t) (hchild : t.elements = before ++ child :: after)
    (hbefore : before.forM (fun child => c.inject room child.label inner false) s₁ = (.ok (), s₂)) :
    Leads c v ⟨room, child.label, inner, false, s₂⟩
  /-- A copy for an item or an entry, when the servings before and the copies before it have been
  walked. -/
  | copy {v : Visit} {room : Nat} {operator : ContentOperator} {operand : String} {ordered : Bool}
    {s s₁ s₂ s₃ s₄ s₅ : Walk.State} {before after : List (List (NodeId × Value))}
    {serving done later : List (NodeId × Value)} {copy : NodeId × Value}
    (h : v.Fills c room (some (operator, operand)) s) (hop : operator.ordered? = some ordered)
    (hservings : operator.servings c v.node v.scope operand s =
      (.ok (before ++ serving :: after), s₁))
    (hbefore : Walk.serveAll (c.inject room) v.node ordered before (s₁.counting ordered) =
      (.ok (), s₂))
    (hadvance : Walk.advance ordered s₂ = (.ok (), s₃))
    (hcopies : Walk.appendCopies v.node serving s₃ = (.ok (done ++ copy :: later), s₄))
    (hdone : done.forM (fun copy => c.inject room copy.1 copy.2 true) s₄ = (.ok (), s₅)) :
    Leads c v ⟨room, copy.1, copy.2, true, s₅⟩

/-- A visit finds its element as one that can be entered, with an ordered scope. -/
def Finds (c : Setting) (v : Visit) : Prop :=
  v.scope.Ordered ∧ ∃ (here : Place) (φ : Frame) (P : Element NodeId), here.node = v.node ∧
    Holds v.state here φ P ∧ Entered c.engine.dialect P.bare.whole

end Visit

/-! ## What an element is filled with -/

variable {α : Type} {here : Place} {φ : Frame} {s s' : Walk.State} {P : Element NodeId}
    {c : Setting}
  {scope : Value} {isItem : Bool} {content? : Option (ContentOperator × String)}

/-- Where a walk succeeds both its parts do. -/
lemma Walk.bind_eq_ok {β : Type} {w : Walk α} {f : α → Walk β} {b : β}
    (h : (w >>= f) s = (.ok b, s')) : ∃ a s₁, w s = (.ok a, s₁) ∧ f a s₁ = (.ok b, s') := by
  rcases e : w s with ⟨_ | a, s₁⟩
  · rw [run_bind_of_error e] at h
    cases h
  · rw [run_bind_of_ok e] at h
    exact ⟨a, s₁, rfl, h⟩

/-- What a walk that succeeds leads to is what the local action yields. -/
lemma Reaches.of_run {σ : Type} {shows : σ → Walk.State → Prop}
    {left : Except Stop α × Walk.State} {yield : Yield σ α} {a : α}
    (h : Reaches s shows left yield) (hleft : left = (.ok a, s')) :
    yield.result = .ok a ∧ shows yield.state s' := by
  subst hleft
  refine ⟨?_, h.shows⟩
  have hresult := h.result
  rcases e : yield.result with f | b
  · rw [e] at hresult
    cases hresult
  · rw [e] at hresult
    cases hresult
    rfl

/-- A walk succeeds where the local action does. -/
lemma Reaches.of_result {σ : Type} {shows : σ → Walk.State → Prop}
    {left : Except Stop α × Walk.State} {yield : Yield σ α} {a : α}
    (h : Reaches s shows left yield) (hok : yield.result = .ok a) : left = (.ok a, left.2) :=
  Prod.ext (h.result.trans (congrArg _ hok)) rfl

namespace Setting

variable {turn : Turn}

/-- The attributes of an element are set, or nothing is done to it. -/
lemma dress_ok {ds : Directives} {goesOn : Bool} (hP : P.bare.Ready) (h : Holds s here φ P)
    (hrun : c.dress here.node ds scope s = (.ok goesOn, s')) :
    ∃ Q : Element NodeId, Holds s' here φ Q ∧ Q.bare.Ready ∧ P.bare.Within Q.bare := by
  unfold dress at hrun
  split at hrun
  · cases hrun
    exact ⟨P, h, hP, rfl, fun _ ht => ht⟩
  · obtain ⟨-, Q, hQ, hholds⟩ := (Follows.decorate hP h).of_run hrun
    refine ⟨Q, hholds, hQ ▸ ?_, hQ ▸ ?_⟩
    · exact Local.Keeps.decorate Element.Ready.apply Follows.keeps_setHidden ds P.bare hP
    · exact Local.Keeps.decorate Element.Within.apply
        (fun _ => Local.Keeps.change fun _ hQ => hQ) ds
        P.bare ⟨rfl, fun _ ht => ht⟩

/-- No element is left by a jump, and one that is filled is found as one that is ready for
it. -/
lemma arrive_ok (hentered : Entered c.engine.dialect P.bare.whole) (h : Holds s here φ P)
    (hrun : c.arrive here.node scope isItem s = (.ok turn, s')) :
    (∀ target, turn ≠ .jump target) ∧ ∀ content?, turn = .fill content? →
      ∃ Q : Element NodeId, Holds s' here φ Q ∧ Q.bare.Ready ∧
        ((∀ operand, content? ≠ some (.html, operand)) → Q.bare.Supplied c.engine.dialect) := by
  obtain ⟨ds, s₁, hdirectives, hrest⟩ := Walk.bind_eq_ok hrun
  obtain ⟨hds, Q, hQ, hholds⟩ := (Reaches.directives h).of_run hdirectives
  obtain ⟨hread, hsame⟩ := Local.directives_eq_ok hds
  simp only [hsame] at hQ
  obtain ⟨hjump, hsupplied⟩ := hentered.supplied hread
  rw [← hQ] at hentered hsupplied
  have htarget : Walk.jumpTarget ds s₁ = (.ok none, s₁) := by
    unfold Walk.jumpTarget
    rw [hjump]
    rfl
  rw [Walk.run_bind_of_ok htarget] at hrest
  obtain ⟨goesOn, s₂, hdress, hrest⟩ := Walk.bind_eq_ok hrest
  obtain ⟨Q', hholds', hready, hwithin⟩ := dress_ok hentered.children hholds hdress
  cases goesOn with
  | false =>
    cases hrest
    exact ⟨by simp, by simp⟩
  | true =>
    obtain ⟨content?, s₃, hcontent, hrest⟩ := Walk.bind_eq_ok hrest
    cases hrest
    refine ⟨by simp, fun content? e => ?_⟩
    obtain rfl := Turn.fill.inj e
    obtain ⟨he, R, hR, hholds''⟩ := (Reaches.contentOperator hholds').of_run hcontent
    rw [Local.contentOperator_state] at hR
    rw [← hR] at hready hwithin
    refine ⟨R, hholds'', hready, fun hhtml t ht => ?_⟩
    refine hsupplied (fun operand hdeclared => hhtml operand ?_) t
      (ht.imp (fun m => hwithin.1 ▸ m) (hwithin.2 t))
    simp only [Local.contentOperator, hdeclared] at he
    cases he
    rfl

end Setting

/-! ## What a visit leads to -/

variable {head : Head} {stock ts after : List (Stocked NodeId)} {dialect : Dialect}

/-- A list or a map begins to count in front of its first item. -/
lemma Holds.counting {ordered : Bool} (h : Holds s here φ P) :
    Holds (s.counting ordered) (here.counted ordered 0) φ P := by
  cases ordered with
  | false => exact h
  | true => exact ⟨h.document, h.stash, congrArg (0 :: ·) h.positions, h.depth⟩

/-- A copy of a template is one of the nodes below the element. -/
lemma Holds.ofCopy {u : Tree NodeId} {template : Stocked NodeId} (hu : u.bare = template.tree.bare)
    (helement : template.isElement = true)
    (h : Holds s here φ ⟨head, stock, ts ++ .ofTree u :: after⟩) :
    ∃ R : Element NodeId, R.bare.whole = template.bare.copy ∧
      Holds s (here.child u.label) (φ.inside here.node head stock ts after) R := by
  have hcopy := Stocked.bare_ofTree_copy hu
  have helement := Stocked.isElement_ofTree_copy hu helement
  have hlabel : (Stocked.ofTree u).label = u.label := by
    rw [← Stocked.label_tree, Stocked.tree_ofTree]
  rw [← hlabel]
  generalize Stocked.ofTree u = copy at h hcopy helement
  cases copy with
  | text n content => cases helement
  | element m head' stock' children' =>
    let R : Element NodeId := ⟨head', stock', children'⟩
    exact ⟨R, (Element.bare_labelled R m).symm.trans hcopy, Holds.inside_iff.2 h⟩

/-- Walking some of the nodes side by side leaves those behind them as they are. -/
lemma Holds.walked {xs : List (Stocked NodeId × Walk Unit × Local (Element Unit) Unit)}
    (hxs : ∀ x ∈ xs, Accompanies here x.1 x.2.1 x.2.2)
    (h : Holds s here φ ⟨head, stock, ts ++ (xs.map Prod.fst ++ after)⟩)
    (hrun : (xs.filter fun x => x.1.isElement).forM (fun x => x.2.1) s = (.ok (), s')) :
    ∃ ts', Holds s' here φ ⟨head, stock, ts' ++ after⟩ := by
  induction xs generalizing ts s with
  | nil =>
    cases hrun
    exact ⟨ts, h⟩
  | cons x xs ih =>
    obtain ⟨t, w, l⟩ := x
    have hlater := fun y hy => hxs y (List.mem_cons_of_mem _ hy)
    cases t with
    | text n content =>
      have hskipped : Holds s here φ ⟨head, stock,
          ts ++ [.text n content] ++ (xs.map Prod.fst ++ after)⟩ := by simpa using h
      exact ih hlater hskipped hrun
    | element m head' stock' children' =>
      set Q : Element NodeId := ⟨head', stock', children'⟩
      have hinside : Holds s (here.child m) (φ.inside here.node head stock ts
          (xs.map Prod.fst ++ after)) Q := Holds.inside_iff.2 h
      have hwalk := hxs _ List.mem_cons_self (m := m) (Q := Q) rfl hinside
      obtain ⟨_, s₁, hfirst, hrest⟩ := Walk.bind_eq_ok
        (f := fun _ => (xs.filter fun x => x.1.isElement).forM fun x => x.2.1) hrun
      obtain ⟨-, R, -, hholds⟩ := hwalk.of_run hfirst
      have hwalked : Holds s₁ here φ ⟨head, stock,
          ts ++ [R.labelled m] ++ (xs.map Prod.fst ++ after)⟩ := by
        simpa using Holds.inside_iff.1 hholds
      exact ih hlater hwalked hrest

namespace Local

variable {positions : List Nat} {operator : ContentOperator} {operand : String}
  {walk : List Nat → Value → Local (Element Unit) Unit}

/-- The scope that an operator opens for the elements below is ordered. -/
lemma ordered_of_content {P : Element Unit} {inner : Value} (hmodel : c.model.Ordered)
    (hscope : scope.Ordered)
    (h : (content c walk positions scope operand operator P).result = .ok (some inner)) :
    inner.Ordered := by
  obtain ⟨rfl, -⟩ := content_some operator h
  rcases guarded_eq_ok h with hrun | e | e
  · obtain ⟨value, hvalue, hpure, -, -⟩ := bind_eq_ok hrun
    cases hpure
    unfold runObject at hvalue
    split at hvalue
    · cases hvalue
      exact .null
    · obtain ⟨found, hfound, hrest, -, -⟩ := bind_eq_ok hvalue
      have hordered : found.Ordered := by
        cases hread : Path.read c.model scope operand with
        | error cause =>
          rw [hread] at hfound
          cases hfound
        | ok v =>
          rw [hread] at hfound
          cases hfound
          exact hmodel.read hscope hread
      split at hrest
      · cases hrest
        exact hordered
      · cases hrest
  · cases e
    exact .null
  · cases e

end Local

/-- The elements below an element are walked in an ordered scope, and the element is as it was. -/
lemma Walk.inner_ok {room depth : Nat} {inner : Value} (hmodel : c.model.Ordered)
    (hscope : scope.Ordered) (hdepth : here.depth = depth) (hP : P.bare.Ready)
    (hsupplied : (∀ operand, content? ≠ some (.html, operand)) →
      P.bare.Supplied c.engine.dialect) (h : Holds s here φ P)
    (hrun : Walk.inner c (c.inject room) here.node scope content? s = (.ok (some inner), s')) :
    inner.Ordered ∧ ∃ Q, Holds s' here φ Q ∧ Q.bare.Ready ∧
      Q.bare.Supplied c.engine.dialect := by
  cases content? with
  | none =>
    cases hrun
    exact ⟨hscope, P, h, hP, hsupplied (by simp)⟩
  | some declared =>
    obtain ⟨operator, operand⟩ := declared
    obtain ⟨hresult, Q, hQ, hholds⟩ :=
      (Reaches.content operator (hdepth ▸ inject_follows c room depth)
      (fun _ _ _ => Local.OnlyAssertions.inject _ _ _ _ _) hP
      (fun hne => hsupplied (by simpa using fun e => absurd e hne)) h).of_run hrun
    obtain ⟨rfl, hstate⟩ := Local.content_some operator hresult
    rw [hstate] at hQ
    exact ⟨Local.ordered_of_content hmodel hscope hresult, Q, hholds, hQ ▸ hP,
      hQ ▸ hsupplied (by simp)⟩

/-- What the servings of a list or a map are: one copy of its template for each item, or a copy of
both its templates for each entry, in the ascending order of the names. -/
inductive ContentOperator.Serves (model scope : Value) (operand : String) :
    ContentOperator → List (List (NodeId × Value)) → Prop
  | list {ordered : Bool} (template : NodeId) {items : List Value}
    (h : Path.itemsIn model scope operand = .ok items) :
    Serves model scope operand (.list ordered) (items.map fun item => [(template, item)])
  | map {ordered : Bool} (key value : NodeId) {entries : List (String × Value)}
    (h : Path.entriesIn model scope operand = .ok entries) (hascending : Ascending entries) :
    Serves model scope operand (.map ordered)
      (entries.map fun entry => [(key, .string entry.1), (value, entry.2)])

namespace ContentOperator

variable {operator : ContentOperator} {operand : String} {ordered : Bool}
  {rows : List (List (NodeId × Value))} {n : NodeId}

/-- The items that an ordered model and an ordered scope hold are ordered. -/
lemma ordered_itemsIn {items : List Value} (hmodel : c.model.Ordered) (hscope : scope.Ordered)
    (h : Path.itemsIn c.model scope operand = .ok items) : ∀ item ∈ items, item.Ordered := by
  unfold Path.itemsIn at h
  split at h
  · cases h
    exact fun item hi => nomatch hi
  · exact hmodel.readItems hscope h

/-- The entries that an ordered model and an ordered scope hold ascend, and their values are
ordered. -/
lemma ordered_entriesIn {entries : List (String × Value)} (hmodel : c.model.Ordered)
    (hscope : scope.Ordered) (h : Path.entriesIn c.model scope operand = .ok entries) :
    Ascending entries ∧ ∀ entry ∈ entries, entry.2.Ordered := by
  unfold Path.entriesIn at h
  split at h
  · cases h
    exact ⟨.nil, fun entry he => nomatch he⟩
  · exact hmodel.readEntries hscope h

/-- A check that succeeds gives what was found, and leaves the state as it is. -/
lemma check_eq_ok {found : Except Cause α} {a : α}
    (h : Walk.check found s = (.ok a, s')) : found = .ok a ∧ s = s' := by
  cases found with
  | error cause => cases h
  | ok b =>
    cases h
    exact ⟨rfl, rfl⟩

/-- The servings of a list or a map are those of its items or entries. -/
lemma serves_of_servings (hmodel : c.model.Ordered) (hscope : scope.Ordered)
    (hop : operator.ordered? = some ordered)
    (h : operator.servings c n scope operand s = (.ok rows, s')) :
    operator.Serves c.model scope operand rows := by
  cases operator with
  | list _ =>
    obtain ⟨template, s₁, -, h⟩ := Walk.bind_eq_ok h
    obtain ⟨_, s₂, -, h⟩ := Walk.bind_eq_ok h
    obtain ⟨items, s₃, hitems, h⟩ := Walk.bind_eq_ok h
    cases h
    exact .list template (check_eq_ok hitems).1
  | map _ =>
    obtain ⟨⟨key, value⟩, s₁, -, h⟩ := Walk.bind_eq_ok h
    obtain ⟨_, s₂, -, h⟩ := Walk.bind_eq_ok h
    obtain ⟨entries, s₃, hentries, h⟩ := Walk.bind_eq_ok h
    cases h
    have hentries := (check_eq_ok hentries).1
    exact .map key value hentries (ordered_entriesIn hmodel hscope hentries).1
  | _ => cases hop

/-- The values for the copies are ordered. -/
lemma Serves.values_ordered (hmodel : c.model.Ordered) (hscope : scope.Ordered)
    (h : operator.Serves c.model scope operand rows) :
    ∀ serving ∈ rows, ∀ copy ∈ serving, copy.2.Ordered := by
  cases h with
  | list template hitems =>
    simpa using ordered_itemsIn hmodel hscope hitems
  | map key value hentries hascending =>
    have hordered := (ordered_entriesIn hmodel hscope hentries).2
    simp only [List.mem_map, forall_exists_index, and_imp, forall_apply_eq_imp_iff₂,
      List.forall_mem_cons]
    exact fun entry he => ⟨.string _, hordered entry he, by simp⟩

end ContentOperator

namespace Visit

variable {v w : Visit}

/-- What a visit finds when it fills its element. -/
lemma Finds.fills {room : Nat} (h : v.Finds c) (hfills : v.Fills c room content? s) :
    v.scope.Ordered ∧ ∃ (here : Place) (φ : Frame) (P : Element NodeId), here.node = v.node ∧
      Holds s here φ P ∧ P.bare.Ready ∧
      ((∀ operand, content? ≠ some (.html, operand)) → P.bare.Supplied c.engine.dialect) := by
  obtain ⟨hscope, here, φ, P, hnode, hholds, hentered⟩ := h
  obtain ⟨-, hrun⟩ := hfills
  rw [← hnode] at hrun
  obtain ⟨-, hfill⟩ := Setting.arrive_ok hentered hholds.deeper hrun
  obtain ⟨Q, hholds', hready, hsupplied⟩ := hfill content? rfl
  exact ⟨hscope, { here with depth := here.depth + 1 }, φ, Q, hnode, hholds', hready, hsupplied⟩

/-- The child of an element is found when those before it have been walked. -/
lemma finds_child {room : Nat} {inner : Value} {t child : Tree NodeId}
    {before after : List (Tree NodeId)} (hinner : inner.Ordered) (hP : P.bare.Ready)
    (hsupplied : P.bare.Supplied c.engine.dialect) (h : Holds s here φ P)
    (ht : s.document.find? here.node = some t) (hchild : t.elements = before ++ child :: after)
    (hbefore : before.forM (fun child => c.inject room child.label inner false) s = (.ok (), s')) :
    Finds c ⟨room, child.label, inner, false, s'⟩ := by
  obtain ⟨head, stock, children⟩ := P
  obtain rfl := Option.some.inj (h.find?.symm.trans ht)
  rw [Element.elements_tree] at hchild
  obtain ⟨before, rest, helements, rfl, hrest⟩ := List.map_eq_append_iff.1 hchild
  obtain ⟨child, after, rfl, rfl, rfl⟩ := List.map_eq_cons_iff.1 hrest
  obtain ⟨earlier, later, rfl, rfl, hlater⟩ := List.filter_eq_append_iff.1 helements
  obtain ⟨texts, later, rfl, htexts, helement, -⟩ := List.filter_eq_cons_iff.1 hlater
  -- the elements before the child were walked, and the texts among them were not
  let xs : List (Stocked NodeId × Walk Unit × Local (Element Unit) Unit) :=
    (earlier ++ texts).map fun t => (t, c.inject room t.label inner false,
      Local.inject c room here.depth here.positions inner false)
  have hxs : ∀ x ∈ xs, Accompanies here x.1 x.2.1 x.2.2 := by
    intro x hx
    obtain ⟨t, ht, rfl⟩ := List.mem_map.1 hx
    refine accompanies_child (inject_follows c room here.depth) hP hsupplied ?_ inner
    rcases List.mem_append.1 ht with ht | ht <;> simp [ht]
  have hwalks : (xs.filter fun x => x.1.isElement).forM (fun x => x.2.1) =
      ((earlier.filter Stocked.isElement).map Stocked.tree).forM fun child =>
        c.inject room child.label inner false := by
    have htexts' : texts.filter Stocked.isElement = [] :=
      List.filter_eq_nil_iff.2 fun t ht => by simpa using htexts t ht
    rw [Walk.forM_map, List.filter_map, Walk.forM_map]
    simp [Function.comp_def, htexts', Stocked.label_tree]
  have hholds : Holds s here φ ⟨head, stock, [] ++ (xs.map Prod.fst ++ child :: later)⟩ := by
    simpa [xs, Function.comp_def] using h
  obtain ⟨ts', hholds⟩ := Holds.walked hxs hholds (hwalks ▸ hbefore)
  cases child with
  | text n content => cases helement
  | element m head' stock' children' =>
    let R : Element NodeId := ⟨head', stock', children'⟩
    have hentered : Entered c.engine.dialect (R.labelled m).bare :=
      hsupplied.child hP (by simp [R, Element.labelled]) rfl
    rw [Element.bare_labelled] at hentered
    exact ⟨hinner, here.child m, _, R, rfl, Holds.inside_iff.2 hholds, hentered⟩

/-- A copy among others is found when those before it have been walked. -/
lemma finds_placed {room : Nat} {us₁ us₂ : List (Tree NodeId × Stocked NodeId × Value)}
    {u : Tree NodeId × Stocked NodeId × Value}
    (hus : ∀ x ∈ us₁ ++ u :: us₂, x.1.bare = x.2.1.tree.bare ∧ x.2.1.isElement = true ∧
      Entered c.engine.dialect x.2.1.bare.copy) (hvalue : u.2.2.Ordered)
    (h : Holds s here φ ⟨head, stock, ts ++ (us₁ ++ u :: us₂).map fun x => .ofTree x.1⟩)
    (hdone : us₁.forM (fun x => c.inject room x.1.label x.2.2 true) s = (.ok (), s')) :
    Finds c ⟨room, u.1.label, u.2.2, true, s'⟩ := by
  let xs : List (Stocked NodeId × Walk Unit × Local (Element Unit) Unit) :=
    us₁.map fun x => (.ofTree x.1, c.inject room x.1.label x.2.2 true,
      Local.inject c room here.depth here.positions x.2.2 true)
  have hxs : ∀ x ∈ xs, Accompanies here x.1 x.2.1 x.2.2 := by
    intro x hx
    obtain ⟨x, hmem, rfl⟩ := List.mem_map.1 hx
    have hx := hus x (List.mem_append_left _ hmem)
    exact accompanies_copy (inject_follows c room here.depth) hx.1 hx.2.2 x.2.2
  have hall : xs.filter (fun x => x.1.isElement) = xs := by
    refine List.filter_eq_self.2 fun x hx => ?_
    obtain ⟨x, hmem, rfl⟩ := List.mem_map.1 hx
    have hx := hus x (List.mem_append_left _ hmem)
    exact Stocked.isElement_ofTree_copy hx.1 hx.2.1
  have hplaced : Holds s here φ ⟨head, stock,
      ts ++ (xs.map Prod.fst ++ (u :: us₂).map fun x => .ofTree x.1)⟩ := by
    simpa [xs, Function.comp_def] using h
  obtain ⟨ts', hholds⟩ := Holds.walked hxs hplaced (by rwa [hall, Walk.forM_map])
  obtain ⟨hu, helement, hentered⟩ := hus u (by simp)
  obtain ⟨R, hR, hholds⟩ := Holds.ofCopy hu helement hholds
  exact ⟨hvalue, here.child u.1.label, _, R, rfl, hholds, hR ▸ hentered⟩

/-- A copy is found when the servings before and the copies before it have been walked. -/
lemma finds_copy {room : Nat} {operator : ContentOperator} {operand : String} {ordered : Bool}
    {s₁ s₂ s₃ s₄ s₅ : Walk.State} {before after : List (List (NodeId × Value))}
    {serving done later : List (NodeId × Value)} {copy : NodeId × Value}
    (hmodel : c.model.Ordered) (hscope : scope.Ordered) (hP : P.bare.Ready)
    (hsupplied : P.bare.Supplied c.engine.dialect) (h : Holds s here φ P)
    (hop : operator.ordered? = some ordered)
    (hservings : operator.servings c here.node scope operand s =
      (.ok (before ++ serving :: after), s₁))
    (hbefore : Walk.serveAll (c.inject room) here.node ordered before (s₁.counting ordered) =
      (.ok (), s₂))
    (hadvance : Walk.advance ordered s₂ = (.ok (), s₃))
    (hcopies : Walk.appendCopies here.node serving s₃ = (.ok (done ++ copy :: later), s₄))
    (hdone : done.forM (fun copy => c.inject room copy.1 copy.2 true) s₄ = (.ok (), s₅)) :
    Finds c ⟨room, copy.1, copy.2, true, s₅⟩ := by
  have hvalues := (ContentOperator.serves_of_servings hmodel hscope hop hservings).values_ordered
    hmodel hscope serving (by simp)
  have hgathers := h.servings c scope operand hop hP hsupplied
  generalize operator.servings c here.node scope operand s = left at hservings hgathers
  generalize Local.servings c scope operand operator P.bare = yield at hgathers
  cases hgathers with
  | lacking => cases hservings
  | @served served _ head stock hserved _ _ hcleared =>
    obtain ⟨hrows, rfl⟩ := Prod.mk.inj hservings
    obtain ⟨earlier, rest, rfl, rfl, hrest⟩ := List.map_eq_append_iff.1 (Except.ok.inj hrows)
    obtain ⟨serving', later', rfl, rfl, rfl⟩ := List.map_eq_cons_iff.1 hrest
    have hserving : CanServe c.engine.dialect stock serving' := hserved _ (by simp)
    have hcounting : Holds (Walk.State.counting ordered _) (here.counted ordered 0) φ
        ⟨head, stock, []⟩ := hcleared.counting
    have hearlier : Reaches _ (ShowsCounted here ordered φ head stock)
        (Walk.serveAll (c.inject room) here.node ordered (labelServings earlier) _) _ :=
      Reaches.serveEach (inject_follows c room here.depth)
        (fun serving hs => hserved serving (List.mem_append_left _ hs)) hcounting
    -- the servings before this one have left nothing but their copies
    obtain ⟨-, k, ts, -, hholds⟩ := hearlier.of_run hbefore
    obtain ⟨s₃', hadvance', -, -, hholds'⟩ := hholds.advance
    obtain ⟨-, rfl⟩ := Prod.mk.inj (hadvance'.symm.trans hadvance)
    -- all copies of this serving are appended before the first one is walked
    obtain ⟨us, d, rfl, hbare, hcopies', hholds''⟩ :=
      hholds'.appendCopies fun copy hc => (hserving copy hc).1
    rw [Place.counted_node, hcopies] at hcopies'
    obtain ⟨hlabels, rfl⟩ := Prod.mk.inj hcopies'
    obtain ⟨us₁, rest, rfl, rfl, hrest⟩ := List.map_eq_append_iff.1 (Except.ok.inj hlabels).symm
    obtain ⟨u, us₂, rfl, rfl, rfl⟩ := List.map_eq_cons_iff.1 hrest
    rw [List.map_map] at hvalues
    refine finds_placed (fun x hx => ⟨hbare x hx, (hserving _ (List.mem_map_of_mem hx)).2⟩)
      (hvalues _ (List.mem_map_of_mem (by simp))) hholds'' ?_
    rwa [Walk.forM_map] at hdone

/-- What a visit finds, the visits that it leads to find as well. -/
lemma Finds.leads (hmodel : c.model.Ordered) (h : v.Finds c) (hw : Leads c v w) : w.Finds c := by
  cases hw with
  | jump hroom hrun =>
    obtain ⟨-, here, φ, P, hnode, hholds, hentered⟩ := h
    rw [← hnode] at hrun
    exact absurd rfl ((Setting.arrive_ok hentered hholds.deeper hrun).1 _)
  | below hfills hinner ht hchild hbefore =>
    obtain ⟨hscope, here, φ, P, hnode, hholds, hready, hsupplied⟩ := h.fills hfills
    rw [← hnode] at hinner ht
    obtain ⟨hordered, Q, hholds', hready', hsupplied'⟩ :=
      Walk.inner_ok hmodel hscope rfl hready hsupplied hholds hinner
    exact finds_child hordered hready' hsupplied' hholds' ht hchild hbefore
  | copy hfills hop hservings hbefore hadvance hcopies hdone =>
    obtain ⟨hscope, here, φ, P, hnode, hholds, hready, hsupplied⟩ := h.fills hfills
    rw [← hnode] at hservings hbefore hcopies
    have hsupplied := hsupplied fun operand e => by
      cases e
      cases hop
    exact finds_copy hmodel hscope hready hsupplied hholds hop hservings hbefore hadvance hcopies
      hdone

end Visit

end TreeTemplate
