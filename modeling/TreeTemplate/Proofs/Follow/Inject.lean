import TreeTemplate.Proofs.Follow.Servings
import TreeTemplate.Proofs.Follow.Steps
import TreeTemplate.Proofs.Local.Directives
import TreeTemplate.Proofs.Local.OnlyAssertions

/-!
# Injection, followed

Injection follows the local action for it, wherever no element is left by a jump.

Main statements:

* `Reaches.content` — an operator that fills an element, under the policy for faults;
* `inject_follows`, `injectSubtree_follows` — injection as a whole.
-/

namespace TreeTemplate

variable {here : Place} {φ : Frame} {s : Walk.State} {P : Element NodeId}
  {operand : String} {c : Setting} {scope : Value} {dialect : Dialect} {ordered : Bool}

/-! ## Operators under the policy for faults -/

namespace Local

variable {walk : List Nat → Value → Local (Element Unit) Unit} {positions : List Nat}

/-- Removing texts leaves an element ready. -/
lemma keeps_removeText : Keeps Element.Ready removeText :=
  Keeps.change fun P hP => Element.Ready.apply .removeText P hP

/-- Filling in a text leaves an element ready. -/
lemma keeps_fillText (content : String) : Keeps Element.Ready (fillText content) :=
  Keeps.change fun P hP => Element.Ready.apply (.fillText content) P hP

/-- An element that is filled with trees is ready. -/
lemma ready_fill_ofTrees (P : Element Unit) (trees : List (Tree Unit)) (hP : P.Ready) :
    (P.fill (trees.map Stocked.ofTree)).Ready :=
  hP.fill (List.forall_mem_map.2 fun t _ => ⟨Stocked.fit_ofTree t, Stocked.tidy_ofTree t⟩)

/-- A list that stops for what the model lacks leaves the element ready. -/
lemma keepsLacking_runList (hwalk : ∀ inside value, OnlyAssertions (walk inside value)) :
    KeepsLacking Element.Ready (runList c walk positions scope operand ordered) := by
  refine .bind keeps_itemTemplate fun template => .bind keeps_clear fun _ => ?_
  split
  · exact .of_keeps (.pure _)
  · exact .bind (.check _) fun items => .of_onlyAssertions (.onChildren (.expand hwalk _ _))

/-- A map that stops for what the model lacks leaves the element ready. -/
lemma keepsLacking_runMap (hwalk : ∀ inside value, OnlyAssertions (walk inside value)) :
    KeepsLacking Element.Ready (runMap c walk positions scope operand ordered) := by
  refine .bind keeps_entryTemplates fun templates => .bind keeps_clear fun _ => ?_
  split
  · exact .of_keeps (.pure _)
  · exact .bind (.check _) fun entries => .of_onlyAssertions (.onChildren (.expand hwalk _ _))

/-- Where an operator stops because the model lacks something, it can be undone. -/
lemma keepsLacking_run (hwalk : ∀ inside value, OnlyAssertions (walk inside value))
    (operator : ContentOperator) :
    KeepsLacking Element.Ready (run c walk positions scope operand operator) := by
  cases operator with
  | text =>
    exact .of_keeps (.bind (.runText keeps_removeText keeps_fillText) fun _ => .pure _)
  | html => exact .of_keeps (.bind (.runHtml keeps_clear ready_fill_ofTrees) fun _ => .pure _)
  | object => exact .of_keeps (.bind .runObject fun _ => .pure _)
  | list ordered => exact .bind_onlyAssertions (keepsLacking_runList hwalk) fun _ => .pure _
  | map ordered => exact .bind_onlyAssertions (keepsLacking_runMap hwalk) fun _ => .pure _
  | numbering => exact .of_keeps (.bind (.runNumbering keeps_fillText) fun _ => .pure _)
  | options =>
    exact .of_keeps (.bind (.runOptions keeps_clear keeps_appendOption) fun _ => .pure _)

end Local

/-- What an operator filled in is removed. -/
lemma Follows.undoContent (operator : ContentOperator) : Follows here φ Element.Ready
    (operator.undo here.node) (Local.undoContent operator) := by
  cases operator with
  | text => exact removeText
  | numbering => exact removeText
  | html => exact clear
  | options => exact clear
  | object => exact pure ()
  | list _ =>
    intro s P hP h
    unfold ContentOperator.undo Local.undoContent
    dsimp only
    rcases h.itemTemplate hP.1 with
      ⟨template, Q, d, stash, hrun, hlocal, hholds, -⟩ | ⟨cause, hrun, hlocal⟩
    · have hready := Local.keeps_itemTemplate _ hP
      rw [hlocal] at hready
      rw [Walk.run_bind_of_ok hrun, Local.bind_of_ok hlocal]
      exact (clear hready hholds).congr rfl rfl
    · rw [Walk.run_bind_of_error hrun, Local.bind_of_error hlocal]
      exact Reaches.fail h ⟨cause, none⟩
  | map _ =>
    intro s P hP h
    unfold ContentOperator.undo Local.undoContent
    dsimp only
    rcases h.entryTemplates hP.1 with
      ⟨key, value, Q, d, stash, hrun, hlocal, hholds, -⟩ | ⟨cause, hrun, hlocal⟩
    · have hready := Local.keeps_entryTemplates _ hP
      rw [hlocal] at hready
      rw [Walk.run_bind_of_ok hrun, Local.bind_of_ok hlocal]
      exact (clear hready hholds).congr rfl rfl
    · rw [Walk.run_bind_of_error hrun, Local.bind_of_error hlocal]
      exact Reaches.fail h ⟨cause, none⟩

variable {walk : ElementWalk} {act : List Nat → Value → Bool → Local (Element Unit) Unit}

/-- An operator that fills an element follows the local action for it. The copies that a list or a
map makes must not be left by a jump. -/
lemma Reaches.content (operator : ContentOperator)
    (hwalk : ElementFollows dialect here.depth walk act)
    (honly : ∀ inside value isItem, Local.OnlyAssertions (act inside value isItem))
    (hP : P.bare.Ready)
    (hsupplied : operator ≠ .html → P.bare.Supplied dialect) (h : Holds s here φ P) :
    Reaches s (Shows here φ) (operator.execute c walk here.node scope operand s)
      (Local.content c (fun inside value => act inside value true) here.positions scope operand
        operator P.bare) := by
  refine Reaches.guarded ?_ fun {f} {s'} {Q} he hf hQ hholds => Follows.undoContent operator
    (hQ ▸ Local.keepsLacking_run (fun _ _ => honly _ _ _) operator hP he hf) hholds
  cases operator with
  | text => exact (Follows.runText hP h).bind fun {_} {_} {_} _ _ h => Reaches.pure h _
  | html => exact (Follows.runHtml hP h).bind fun {_} {_} {_} _ _ h => Reaches.pure h _
  | object =>
    exact (Follows.runObject (I := fun _ => True) trivial h).bind fun {_} {_} {_} _ _ h =>
      Reaches.pure h _
  | list ordered => exact collection rfl hwalk hP (hsupplied (by simp)) h
  | map ordered => exact collection rfl hwalk hP (hsupplied (by simp)) h
  | numbering => exact (Follows.runNumbering hP h).bind fun {_} {_} {_} _ _ h => Reaches.pure h _
  | options => exact (Follows.runOptions hP h).bind fun {_} {_} {_} _ _ h => Reaches.pure h _

/-! ## Attributes and conditions -/

/-- An element has the stock that it had, and no elements below it that were not there. -/
def Element.Within (P Q : Element Unit) : Prop :=
  Q.stock = P.stock ∧ ∀ t ∈ Q.elements, t ∈ P.elements

/-- A touch puts no elements below an element. -/
lemma Element.Within.apply {P : Element Unit} (touch : Touch) (Q : Element Unit) (h : P.Within Q) :
    P.Within (touch.apply Q) := by
  have hedit (f : Tree Unit → Tree Unit) : P.Within (Q.edit f) := h
  cases touch with
  | put name value? => cases value? <;> exact hedit _
  | toggle name on => cases on <;> exact hedit _
  | removeText =>
    refine ⟨h.1, fun t ht => h.2 t ?_⟩
    simpa [Touch.apply, Element.removeText, Element.fill, Element.elements] using ht
  | fillText content =>
    exact ⟨h.1, by simp [Touch.apply, Element.fill, Element.elements, Stocked.isElement]⟩
  | recover => exact h
  | refuse => exact h

namespace Local.Keeps

variable {R : Element Unit → Prop}

/-- Setting attributes and deciding whether an element is shown keeps what every touch keeps. -/
lemma decorate (h : ∀ touch P, R P → R (Touch.apply touch P))
    (hhidden : ∀ hidden, Keeps R (setHidden hidden)) (ds : Directives) :
    Keeps R (Local.decorate c ds scope) := by
  refine bind (forM fun _ _ => execute h _ _ _) fun _ => ?_
  split
  · exact pure _
  · refine bind (conditional _ _ _) fun visibility => ?_
    cases visibility with
    | shown => exact bind (hhidden _) fun _ => pure _
    | hidden => exact bind (hhidden _) fun _ => pure _
    | abandoned => exact pure _

end Local.Keeps

namespace Follows

variable {ds : Directives}

/-- Hiding or showing an element leaves it ready. -/
lemma keeps_setHidden (hidden : Bool) : Local.Keeps Element.Ready (Local.setHidden hidden) :=
  Local.Keeps.change fun _ hP => hP

/-- The attributes are set, and it is decided whether the element is shown. -/
lemma decorate : Follows here φ Element.Ready (c.decorate here.node ds scope)
    (Local.decorate c ds scope) := by
  unfold Setting.decorate Local.decorate
  refine bind (forM (fun _ _ => execute _) fun _ _ => .execute Element.Ready.apply _ _ _)
    (.forM fun _ _ => .execute Element.Ready.apply _ _ _) fun _ => ?_
  cases ds.conditional? with
  | none => exact pure _
  | some declared =>
    refine bind (conditional _) (.conditional _ _ _) fun visibility => ?_
    cases visibility with
    | shown => exact bind (setHidden _) (keeps_setHidden _) fun _ => pure _
    | hidden => exact bind (setHidden _) (keeps_setHidden _) fun _ => pure _
    | abandoned => exact pure _

end Follows

/-! ## Walking below an element -/

/-- An element that is left by no jump declares none, and what is below it can be walked unless it
is filled with markup. -/
lemma Entered.children {P : Element Unit} (h : Entered dialect P.whole) : P.Ready :=
  ⟨h.1, (Stocked.tidy_element.1 h.2.1).2⟩

/-- The elements below an element that is supplied can be entered. -/
lemma Element.Supplied.child {t : Stocked NodeId} (hP : P.bare.Ready)
    (hsupplied : P.bare.Supplied dialect) (ht : t ∈ P.children) (helement : t.isElement = true) :
    Entered dialect t.bare := by
  have hmem : t.bare ∈ P.bare.children := List.mem_map_of_mem ht
  have helements : t.bare ∈ P.bare.elements :=
    List.mem_filter.2 ⟨hmem, by rwa [Stocked.isElement_bare]⟩
  exact ⟨(hP.fits _ hmem).1, (hP.fits _ hmem).2, hsupplied _ (.inr helements)⟩

/-- The walk of a node below an element follows the local action for it. -/
lemma accompanies_child {t : Stocked NodeId} (hwalk : ElementFollows dialect here.depth walk act)
    (hP : P.bare.Ready) (hsupplied : P.bare.Supplied dialect) (ht : t ∈ P.children)
    (inner : Value) :
    Accompanies here t (walk t.label inner false) (act here.positions inner false) := by
  intro m Q hQ ψ s' hholds
  have hentered : Entered dialect Q.bare.whole := by
    rw [← Element.bare_labelled Q m, ← hQ]
    exact hsupplied.child hP ht (by rw [hQ]; rfl)
  rw [hQ]
  exact hwalk inner false rfl hentered hholds

namespace Reaches

/-- The elements below an element are walked one after another. -/
lemma below (walk : NodeId → Walk Unit) {act : Local (Element Unit) Unit}
    (hwalk : ∀ t ∈ P.children, Accompanies here t (walk t.label) act) (h : Holds s here φ P) :
    Reaches s (Shows here φ) (Walk.below walk here.node s) (Local.below act P.bare) := by
  obtain ⟨head, stock, children⟩ := P
  let xs : List (Stocked NodeId × Walk Unit × Local (Element Unit) Unit) :=
    children.map fun t => (t, walk t.label, act)
  have hxs : ∀ x ∈ xs, Accompanies here x.1 x.2.1 x.2.2 := by
    intro x hx
    obtain ⟨t, ht, rfl⟩ := List.mem_map.1 hx
    exact hwalk t ht
  have hsweep := sweep [] hxs (by simpa [xs, Function.comp_def] using h)
  have hwalks : (xs.filter fun x => x.1.isElement).forM (fun x => x.2.1) =
      (Element.labelled ⟨head, stock, children⟩ here.node).tree.elements.forM
        fun child => walk child.label := by
    have hmap : ((children.filter Stocked.isElement).map Stocked.tree).forM
        (fun child => walk child.label) = (children.filter Stocked.isElement).forM fun t =>
          walk t.tree.label := List.forM_map
    simp only [Stocked.label_tree] at hmap
    rw [Element.elements_tree]
    refine Eq.trans ?_ hmap.symm
    rw [List.filter_map]
    exact List.forM_map
  have hacts : xs.map (fun x => (x.1.bare, x.2.2)) =
      (children.map Stocked.bare).map fun t => (t, act) := by
    simp only [xs, List.map_map, Function.comp_def]
  rw [hwalks, hacts] at hsweep
  unfold Walk.below
  rw [Walk.run_bind_of_ok h.run_node]
  exact onChildren (by simpa using hsweep)

/-- The elements below an element are walked if there is a scope for them. -/
lemma descend (inner? : Option Value) (hwalk : ElementFollows dialect here.depth walk act)
    (hP : inner?.isSome → P.bare.Ready ∧ P.bare.Supplied dialect) (h : Holds s here φ P) :
    Reaches s (Shows here φ) (Walk.descend walk here.node inner? s)
      (Local.descend (fun scope => act here.positions scope false) inner? P.bare) := by
  cases inner? with
  | none => exact pure h ()
  | some inner =>
    exact below (fun m => walk m inner false)
      (fun t ht => accompanies_child hwalk (hP rfl).1 (hP rfl).2 ht inner) h

/-- The operator that fills an element is found without changing it. -/
lemma contentOperator {ds : Directives} {isItem : Bool} (h : Holds s here φ P) :
    Reaches s (Shows here φ) (Walk.contentOperator here.node ds isItem s)
      (Local.contentOperator ds isItem P.bare) := by
  unfold Walk.contentOperator Local.contentOperator
  cases ds.content? with
  | some content => exact pure h _
  | none =>
    cases isItem with
    | false => exact pure h _
    | true =>
      have hitem : Setting.itemOperator (P.labelled here.node).tree =
          Local.itemOperator P.bare := by
        unfold Setting.itemOperator Local.itemOperator
        rw [Element.isEmpty_elements]
      dsimp only
      rw [if_pos rfl, Walk.run_bind_of_ok h.run_node, hitem]
      exact pure h _

end Reaches

namespace Local

variable {ds : Directives} {isItem : Bool}

/-- Choosing the operator that fills an element leaves it as it is. -/
lemma contentOperator_state (P : Element Unit) : (contentOperator ds isItem P).state = P := by
  unfold contentOperator
  split <;> rfl

end Local

/-- A state holds an element at one depth more when it goes deeper. -/
lemma Holds.deeper (h : Holds s here φ P) : Holds { s with depth := s.depth + 1 }
    { here with depth := here.depth + 1 } φ P :=
  ⟨h.document, h.stash, h.positions, congrArg (· + 1) h.depth⟩

namespace Reaches

/-- The content of an element is filled, and the elements below it are walked. -/
lemma fill {ds : Directives} {isItem : Bool} (hwalk : ElementFollows dialect here.depth walk act)
    (honly : ∀ inside value isItem, Local.OnlyAssertions (act inside value isItem))
    (hP : P.bare.Ready)
    (hsupplied : (∀ operand, ds.content? ≠ some (.html, operand)) → P.bare.Supplied dialect)
    (h : Holds s here φ P) :
    Reaches s (Shows here φ) (c.fill walk here.node ds scope isItem s)
      (Local.fill c act here.positions ds scope isItem P.bare) := by
  rw [Setting.fill_eq]
  refine (contentOperator h).bind fun {content?} {s'} {Q} he hQ hholds => ?_
  rw [Local.contentOperator_state] at hQ
  rw [← hQ] at hP hsupplied he
  cases content? with
  | none =>
    refine (pure hholds (some scope)).bind fun {inner?} {s''} {Q'} _ hQ' hholds' =>
      descend inner? hwalk (fun _ => ?_) hholds'
    replace hQ' : Q'.bare = Q.bare := hQ'
    rw [hQ']
    refine ⟨hP, hsupplied fun operand hhtml => ?_⟩
    simp only [Local.contentOperator, hhtml] at he
    cases he
  | some declared =>
    obtain ⟨operator, operand⟩ := declared
    have hhtml (hne : operator ≠ .html) : Q.bare.Supplied dialect := by
      refine hsupplied fun operand' hhtml => hne ?_
      simp only [Local.contentOperator, hhtml] at he
      cases he
      rfl
    refine (content operator hwalk honly hP hhtml hholds).bind
      fun {inner?} {s''} {Q'} he' hQ' hholds' => descend inner? hwalk (fun hinner => ?_) hholds'
    obtain ⟨inner, rfl⟩ := Option.isSome_iff_exists.1 hinner
    obtain ⟨rfl, hstate⟩ := Local.content_some operator he'
    rw [hQ', hstate]
    exact ⟨hP, hhtml (by simp)⟩

/-! ## Whole walks -/

/-- Running the operators of an element follows the local action if walking what is below does. -/
lemma injectDirectives {ds : Directives} {isItem : Bool}
    (hwalk : ElementFollows dialect here.depth walk act)
    (honly : ∀ inside value isItem, Local.OnlyAssertions (act inside value isItem))
    (hjump : ds.jump? = none) (hP : P.bare.Ready)
    (hsupplied : (∀ operand, ds.content? ≠ some (.html, operand)) → P.bare.Supplied dialect)
    (h : Holds s here φ P) :
    Reaches s (Shows here φ) (c.injectDirectives walk here.node ds scope isItem s)
      (Local.injectDirectives c act here.positions ds scope isItem P.bare) := by
  have htarget : Walk.jumpTarget ds s = (.ok none, s) := by
    unfold Walk.jumpTarget
    rw [hjump]
    rfl
  unfold Setting.injectDirectives Local.injectDirectives
  rw [Walk.run_bind_of_ok htarget]
  dsimp only
  split
  · exact fill hwalk honly hP hsupplied h
  · refine (Follows.decorate hP h).bind fun {goesOn} {s'} {Q} _ hQ hholds => ?_
    have hready : Q.bare.Ready :=
      hQ ▸ Local.Keeps.decorate Element.Ready.apply Follows.keeps_setHidden ds P.bare hP
    have hwithin : P.bare.Within Q.bare := hQ ▸ Local.Keeps.decorate Element.Within.apply
      (fun _ => Local.Keeps.change fun _ hQ => hQ) ds P.bare ⟨rfl, fun _ ht => ht⟩
    cases goesOn with
    | false => exact pure hholds ()
    | true =>
      refine fill hwalk honly hready (fun hhtml t ht => hsupplied hhtml t ?_) hholds
      exact ht.imp (fun m => hwithin.1 ▸ m) (hwithin.2 t)

/-- A walk inside one more element. -/
lemma deeper {walk : Walk Unit} {yield : Yield (Element Unit) Unit} (h : Holds s here φ P)
    (hwalk : ∀ {s' : Walk.State}, Holds s' { here with depth := here.depth + 1 } φ P →
      Reaches s' (Shows { here with depth := here.depth + 1 } φ) (walk s') yield) :
    Reaches s (Shows here φ) (Walk.deeper walk s) yield := by
  obtain ⟨hresult, hdiagnostics, hreported, Q, hQ, hholds⟩ := hwalk h.deeper
  refine ⟨hresult, hdiagnostics, hreported, Q, hQ, hholds.document, hholds.stash,
    hholds.positions, ?_⟩
  exact congrArg (· - 1) hholds.depth

/-- The limit of the depth stops a walk as it stops the local action. -/
lemma refuseDepth (h : Holds s here φ P) :
    Reaches s (Shows here φ) (Walk.refuseDepth here.node s)
      (Local.refuseDepth here.depth P.bare) := by
  have hrun : (Walk.refuseDepth here.node : Walk Unit) s =
      (.error (.fault ⟨.tooDeep here.depth P.bare.shell.describe, none⟩), s) := by
    unfold Walk.refuseDepth
    rw [Walk.run_get, Walk.run_bind_of_ok h.run_node, h.depth]
    rfl
  rw [hrun]
  exact fail h _

/-- The directives of an element are read. -/
lemma directives (h : Holds s here φ P) :
    Reaches s (Shows here φ) (Walk.directives dialect here.node s)
      (Local.directives dialect P.bare) := by
  unfold Walk.directives
  rw [Walk.run_bind_of_ok h.run_node]
  exact Follows.check (I := fun _ => True) _ trivial h

end Reaches

namespace Entered

/-- The directives of an element that can be entered hold no jump, and unless it is filled with
markup its templates can be entered too. -/
lemma supplied {P : Element Unit} {ds : Directives} (h : Entered dialect P.whole)
    (hds : Directives.ofAttrs dialect P.shell.describe P.head.attrs = .ok ds) :
    ds.jump? = none ∧
      ((∀ operand, ds.content? ≠ some (.html, operand)) → P.Supplied dialect) := by
  obtain ⟨hjump, hstock, hchildren⟩ := Stocked.allBut_element.1 h.2.2
  refine ⟨Directives.jump?_eq_none hds hjump, fun hhtml t ht => ?_⟩
  rcases ht with ht | ht
  · exact hstock t ht
  · exact hchildren (Directives.holdsMarkup_eq_false hds hhtml) t (List.mem_filter.1 ht).1

end Entered

/-- Injection follows the local action for it. -/
lemma inject_follows (c : Setting) (room depth : Nat) :
    ElementFollows c.engine.dialect depth (c.inject room) (Local.inject c room depth) := by
  induction room generalizing depth with
  | zero =>
    intro here φ s Q scope isItem hdepth _ h
    subst hdepth
    exact Reaches.refuseDepth h
  | succ room ih =>
    intro here φ s Q scope isItem hdepth hentered h
    subst hdepth
    refine Reaches.deeper h fun {s'} hholds => ?_
    refine (Reaches.directives hholds).bind fun {ds} {s''} {Q'} he hQ hholds' => ?_
    obtain ⟨hds, hsame⟩ := Local.directives_eq_ok he
    simp only [hsame] at hQ
    obtain ⟨hjump, hsupplied⟩ := hentered.supplied hds
    rw [← hQ] at hentered hsupplied
    exact Reaches.injectDirectives (ih _) (fun _ _ _ => Local.OnlyAssertions.inject _ _ _ _ _) hjump
      hentered.children hsupplied hholds'

/-- A value for an element by itself fills it by an operator that can be given one. -/
lemma Directives.forSubtree_eq_ok {ds ds' : Directives} {element : String}
    (h : ds.forSubtree element = .ok ds') :
    ds'.jump? = ds.jump? ∧ (∀ operand, ds.content? ≠ some (.html, operand)) ∧
      ∀ operand, ds'.content? ≠ some (.html, operand) := by
  unfold forSubtree at h
  split at h
  · rename_i e
    cases h
    simp [e]
  · rename_i e
    split at h <;> cases h <;> simp [e]

/-- Injecting into an element by itself follows the local action for it. -/
lemma injectSubtree_follows (c : Setting) (room : Nat)
    (hentered : Entered c.engine.dialect P.bare.whole) (h : Holds s here φ P) :
    Reaches s (Shows here φ) (c.injectSubtree room here.node scope s)
      (Local.injectSubtree c room here.depth here.positions scope P.bare) := by
  cases room with
  | zero => exact Reaches.refuseDepth h
  | succ room =>
    refine Reaches.deeper h fun {s'} hholds => ?_
    refine (Reaches.directives hholds).bind fun {ds} {s''} {Q} he hQ hholds' => ?_
    obtain ⟨hds, hsame⟩ := Local.directives_eq_ok he
    simp only [hsame] at hQ
    obtain ⟨hjump, hsupplied⟩ := hentered.supplied hds
    rw [← hQ] at hentered hsupplied
    rw [Walk.run_bind_of_ok hholds'.run_node, Local.look_bind, Element.describe_tree,
      Element.shell_bare]
    cases hsubtree : ds.forSubtree Q.shell.describe with
    | error cause =>
      rw [Walk.check_error_bind, Local.check_error_bind]
      exact Reaches.fail hholds' ⟨cause, none⟩
    | ok ds' =>
      obtain ⟨hjump', hhtml, -⟩ := Directives.forSubtree_eq_ok hsubtree
      rw [Walk.check_ok_bind, Local.check_ok_bind]
      exact Reaches.injectDirectives (inject_follows c room _)
        (fun _ _ _ => Local.OnlyAssertions.inject _ _ _ _ _) (hjump'.trans hjump) hentered.children
        (fun _ => hsupplied hhtml) hholds'

end TreeTemplate
