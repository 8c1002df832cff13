import TreeTemplate.Proofs.Surroundings.Walks
import TreeTemplate.Proofs.Injection.Awaited

/-!
# Injections and surroundings

An injection that begins at an element without jumps does not jump, whatever it fills in: markup is
not walked, and a clause that declares a jump comes too late for its element. So nothing is ever put
off before a jump, and the injection is mindful.

Main statements:

* `undisturbed_inject` — whole injections.
-/

namespace TreeTemplate.Walk

variable {α γ : Type} {s : State} {φ : Surroundings} {a : Awaited} {c : Setting} {scope : Value}
  {operand : String} {walk : ElementWalk} {mindful : MindfulWalk}

/-- What holds wherever a walk leads holds of where it leads. -/
lemma leadsTo_eq_true {w : Walk α} {q : α → State → Bool}
    (h : ∀ x s', w s = (.ok x, s') → q x s' = true) : leadsTo w q s = true := by
  rcases e : w s with ⟨stop | x, s'⟩
  · rw [leadsTo, e]
  · rw [leadsTo, e]
    exact h x s' e

/-- Where nothing was put off before a jump, a walk that begins at an element in its surroundings is
mindful. -/
def Undisturbed (dialect : Dialect) (mindful : MindfulWalk) : Prop :=
  ∀ φ : Surroundings, φ.dialect = dialect → ∀ a scope isItem s, a.before = [] → Open φ s →
    mindful a φ.node scope isItem s = true

/-- Walks for children in turn are mindful if each of them is in its surroundings. -/
lemma mindfulInTurn_of_ready {node : γ → NodeId} {walk : γ → Walk Unit}
    {mindful : Awaited → γ → State → Bool}
    (hwalk : ∀ x todo, Leads (Ready φ (node x :: todo)) (walk x) (fun _ => Ready φ todo)
      fun _ => Intact φ)
    (hmindful : ∀ (ψ : Surroundings) a x s, ψ.dialect = φ.dialect → ψ.node = node x →
      a.before = [] →
      Open ψ s → mindful a x s = true)
    {xs : List γ} (ha : a.before = []) (h : Ready φ (xs.map node) s) :
    mindfulInTurn node walk mindful a xs s = true := by
  induction xs generalizing s with
  | nil => rfl
  | cons x xs ih =>
    obtain ⟨ψ, hdialect, hnode, hopen⟩ := h.exists_open
    refine Bool.and_eq_true_iff.2 ⟨hmindful ψ _ x s hdialect hnode ha hopen, ?_⟩
    exact leadsTo_eq_true fun _ s' e => ih ((hwalk x (xs.map node)).of_ok h e)

variable (hwalk : ∀ scope isItem, Confined φ.dialect fun n => walk n scope isItem)
  (honly : ∀ n scope isItem, OnlyAssertions (walk n scope isItem))
  (hmindful : Undisturbed φ.dialect mindful)

section

include hwalk hmindful

/-- The copies for one item or entry after another are walked. -/
lemma mindfulServings_of_intact {stored : Stored} {ordered : Bool}
    {servings : List (List (NodeId × Value))} (ha : a.before = [])
    (h : Intact (φ.own stored) s)
    (htemplates : ∀ serving ∈ servings, ∀ copy ∈ serving, copy.1 ∈ stored.templates) :
    mindfulServings walk mindful a φ.node ordered servings s = true := by
  induction servings generalizing s with
  | nil => rfl
  | cons serving servings ih =>
    have hserving := htemplates serving List.mem_cons_self
    refine Bool.and_eq_true_iff.2 ⟨leadsTo_eq_true fun copies s' e => ?_,
      leadsTo_eq_true fun _ s' e => ?_⟩
    · refine mindfulInTurn_of_ready (φ := φ.own stored)
        (fun copy todo => leads_child (φ := φ.own stored) (hwalk copy.2 true) copy.1 todo)
        (fun ψ a copy s hdialect hnode ha hopen =>
          hnode ▸ hmindful ψ hdialect a copy.2 true s ha hopen) ha ?_
      exact ((Leads.of_keeping (keeps_advance ordered)).bind fun _ =>
        leads_appendCopies (φ := φ) hserving).of_ok h e
    · exact ih ((leads_serving hwalk hserving ordered).of_ok h e) fun serving hmem =>
        htemplates serving (List.mem_cons_of_mem _ hmem)

/-- The content of an element is filled. -/
lemma mindfulContent_of_plain {content? : Option (ContentOperator × String)} (ha : a.before = [])
    (h : Plain φ s) : c.mindfulContent walk mindful a φ.node scope content? s = true := by
  cases content? with
  | none => rfl
  | some declared =>
    obtain ⟨operator, operand⟩ := declared
    refine Bool.and_eq_true_iff.2 ⟨by simp [Awaited.clearOf, ha], ?_⟩
    cases hop : operator.ordered? with
    | none => rfl
    | some ordered =>
      refine leadsTo_eq_true fun servings s' e => ?_
      obtain ⟨stored, hs', htemplates⟩ := (leads_servings hop).of_ok h e
      refine mindfulServings_of_intact hwalk hmindful ha ?_ htemplates
      cases ordered with
      | true => exact ofForest_stands s' _ rfl rfl hs'.intact
      | false => exact hs'.intact

/-- The elements below an element are walked in turn. -/
lemma mindfulDescent_of_filled {inner? : Option Value} (ha : a.before = [])
    (h : Filled φ inner? s) :
    mindfulDescent walk mindful a φ.node inner? s = true := by
  cases inner? with
  | none => rfl
  | some inner =>
    obtain ⟨t, ht, hready⟩ := Plain.exists_ready h
    refine leadsTo_eq_true fun u s' e => ?_
    obtain ⟨rfl, rfl⟩ : t = u ∧ s = s' := by
      rw [run_node ht] at e
      exact ⟨Except.ok.inj (Prod.mk.inj e).1, (Prod.mk.inj e).2⟩
    exact mindfulInTurn_of_ready
      (fun child todo => leads_child (hwalk inner false) child.label todo)
      (fun ψ a child s hdialect hnode ha hopen =>
        hnode ▸ hmindful ψ hdialect a inner false s ha hopen) ha hready

end

section

include hwalk honly hmindful

/-- The content of an element is filled, and what is below it is walked. -/
lemma mindfulFill_of_plain {ds : Directives} {isItem : Bool} (ha : a.before = []) (h : Plain φ s) :
    c.mindfulFill walk mindful a φ.node ds scope isItem s = true := by
  refine leadsTo_eq_true fun content? s₁ e => ?_
  replace h : Plain φ s₁ := ((course_stands.closed.element _).contentOperator ds isItem).of_ok e h
  refine Bool.and_eq_true_iff.2 ⟨mindfulContent_of_plain hwalk hmindful ha h,
    leadsTo_eq_true fun inner? s₂ e' => mindfulDescent_of_filled hwalk hmindful ha ?_⟩
  cases content? with
  | none =>
    cases e'
    exact h
  | some declared => exact (leads_execute hwalk honly declared.1).of_ok h e'

/-- A scope is injected into an element that declares no jump. -/
lemma mindfulDirectives_of_plain {ds : Directives} {isItem : Bool} (hds : ds.jump? = none)
    (ha : a.before = []) (h : Plain φ s) :
    c.mindfulDirectives walk mindful a φ.node ds scope isItem s = true := by
  have hfill (s : State) (hs : Plain φ s) :
      c.mindfulFill walk mindful a φ.node ds scope isItem s = true :=
    mindfulFill_of_plain hwalk honly hmindful ha hs
  rw [Setting.mindfulDirectives, jumpTarget_of_none hds]
  show (if scope.isNull then _ else _) = true
  split
  · exact hfill s h
  · refine Bool.and_eq_true_iff.2
      ⟨by simp [Awaited.clearOf, ha], leadsTo_eq_true fun goesOn s' e => ?_⟩
    cases goesOn with
    | true => exact hfill s' ((decorating_plain.decorate ds).of_ok e h)
    | false => rfl

end

/-- An injection that begins at an element in its surroundings is mindful. -/
lemma undisturbed_inject (c : Setting) (room : Nat) :
    Undisturbed c.engine.dialect (c.mindful room) := by
  induction room with
  | zero => exact fun _ _ _ _ _ _ _ _ => rfl
  | succ room ih =>
    intro φ hφ a scope isItem s ha hopen
    refine leadsTo_eq_true fun ds s' e => ?_
    rw [← hφ] at e ih
    obtain ⟨hds, hplain⟩ := leads_directives.of_ok (s := { s with depth := s.depth + 1 })
      (ofForest_open s _ rfl rfl hopen) e
    exact mindfulDirectives_of_plain (fun scope isItem => hφ ▸ confined_inject c room scope isItem)
      (OnlyAssertions.inject c room) ih hds ha hplain

end TreeTemplate.Walk
