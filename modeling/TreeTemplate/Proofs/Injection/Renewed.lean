import TreeTemplate.Proofs.Injection.Grounded
import TreeTemplate.Proofs.Injection.AfterWalks
import TreeTemplate.Proofs.Markup.Reordered

/-!
# Injecting what injections have left

What an injection leads to does not depend on what was injected before, where every element that
sets attributes has a scope to read from: it writes all attributes and texts that operators write,
and makes all copies anew.

Main statements:

* `inject_alike` — what injecting a scope leads to from everything that injections have made of a
  tree.
-/

namespace TreeTemplate

open Stocked (ofTree)

variable {c : Setting} {d : Dialect} {ds : Directives} {scope : Value} {operand : String}
  {h : Head} {ts : List (Tree Unit)} {P Q : Element Unit}

/-- Trees that look alike, whatever is in stock. -/
def Stocked.Alike (t u : Stocked Unit) : Prop :=
  t.tree.Alike u.tree

/-- Trees look like themselves. -/
lemma Stocked.alike_self (us : List (Stocked Unit)) : List.Forall₂ Stocked.Alike us us :=
  List.forall₂_same.2 fun u _ => .refl u.tree

/-- Elements look alike that have the same attributes but for their order, and below which trees
look alike. -/
lemma Stocked.Alike.element (htag : P.head.tag = Q.head.tag)
    (hattrs : Rearranged P.head.attrs Q.head.attrs) (hhidden : P.head.hidden = Q.head.hidden)
    (hchildren : List.Forall₂ Stocked.Alike P.children Q.children) : P.whole.Alike Q.whole := by
  obtain ⟨⟨tag, attrs, hidden⟩, stock, children⟩ := P
  obtain ⟨⟨tag', attrs', hidden'⟩, stock', children'⟩ := Q
  cases htag
  cases hhidden
  simp only [Stocked.Alike, Element.whole, Element.labelled, Stocked.tree_element]
  exact .element hattrs (List.forall₂_map_left_iff.2 (List.forall₂_map_right_iff.2 hchildren))

/-- Elements that are both hidden look alike. -/
lemma Stocked.Alike.hidden (hP : P.head.hidden = true) (hQ : Q.head.hidden = true) :
    P.whole.Alike Q.whole := by
  obtain ⟨⟨tag, attrs, hidden⟩, stock, children⟩ := P
  obtain ⟨⟨tag', attrs', hidden'⟩, stock', children'⟩ := Q
  cases hP
  cases hQ
  simp only [Stocked.Alike, Element.whole, Element.labelled, Stocked.tree_element]
  exact .hidden

/-- An action leads to what looks alike from everything that injections have made of a tree. -/
def Renews (d : Dialect) (act : Local (Element Unit) Unit) (t : Tree Unit) : Prop :=
  ∀ P Q : Element Unit, AfterWalks d false t P.whole → AfterWalks d false t Q.whole →
    (act P).result = .ok () → (∀ f ∈ (act P).notes, f.Formatted) → (act Q).result = .ok () →
      (act P).state.whole.Alike (act Q).state.whole

/-- What injections have made of an element twice, ready to be filled: the two differ in what fills
them alone. -/
structure ReadyToFill (d : Dialect) (h : Head) (ts : List (Tree Unit)) (P Q : Element Unit) :
    Prop where
  left : ElementAfterWalks d false (AfterWalks d false) h ts P
  right : ElementAfterWalks d false (AfterWalks d false) h ts Q
  attrs : Rearranged P.head.attrs Q.head.attrs
  hidden : P.head.hidden = Q.head.hidden
  /-- A value that is shown is the same in both. -/
  shown : h.showsValue d = true → h.fills d ContentOperator.clears = false →
    h.fills d ContentOperator.copies = false → P.children = Q.children

/-- Elements that agree with the same one look the same to operators. -/
lemma Head.Agrees.readsLike (hP : h.Agrees d P.head) (hQ : h.Agrees d Q.head) :
    P.ReadsLike d Q := by
  have hlookup (A : List (String × String)) :
      (A.filter fun attr => d.reserves attr.1).lookup d.formatAttribute =
        A.lookup d.formatAttribute := by
    rw [Tree.lookup_filter d.reserves, if_pos (by simp [Dialect.reserves])]
  refine ⟨hQ.1.trans hP.1.symm, ?_⟩
  rw [← hlookup, hQ.2, ← hP.2, hlookup]

namespace Local

variable {walk : List Nat → Value → Local (Element Unit) Unit} {inner? inner?' : Option Value}

/-! ## Elements side by side -/

/-- Elements side by side that were the same are led to what looks alike. -/
lemma sweep_alike {act : Local (Element Unit) Unit} {xs : List (Tree Unit)}
    {us vs : List (Stocked Unit)} (hus : List.Forall₂ (AfterWalks d false) xs us)
    (hvs : List.Forall₂ (AfterWalks d false) xs vs) (hact : ∀ x ∈ xs, Renews d act x)
    (hU : (sweep (us.map fun t => (t, act))).result = .ok ())
    (hnotes : ∀ f ∈ (sweep (us.map fun t => (t, act))).notes, f.Formatted)
    (hV : (sweep (vs.map fun t => (t, act))).result = .ok ()) :
    List.Forall₂ Stocked.Alike (sweep (us.map fun t => (t, act))).state
      (sweep (vs.map fun t => (t, act))).state := by
  induction hus generalizing vs with
  | nil =>
    cases hvs
    exact .nil
  | @cons x u xs us hu _ ih =>
    cases hvs with
    | @cons _ v _ vs hv hvs =>
      simp only [List.map_cons] at hU hV hnotes ⊢
      rcases eu : onElement act u with ⟨f | _, u', notes⟩
      · rw [sweep_cons_of_error eu] at hU
        cases hU
      rcases ev : onElement act v with ⟨f | _, v', notes'⟩
      · rw [sweep_cons_of_error ev] at hV
        cases hV
      rw [sweep_cons_of_ok eu] at hU hnotes ⊢
      rw [sweep_cons_of_ok ev] at hV ⊢
      obtain ⟨hfirst, hlater⟩ := List.forall_mem_append.1 hnotes
      refine .cons ?_ (ih hvs (fun x hx => hact x (List.mem_cons_of_mem _ hx)) hU hlater hV)
      -- the first nodes are texts, or they are led to what looks alike by hypothesis
      cases u with
      | text label content =>
        cases hu
        cases hv
        cases eu
        cases ev
        exact .text content
      | element label head stock children =>
        cases v with
        | text label content =>
          cases hv
          cases hu
        | element label' head' stock' children' =>
          have hP : (act ⟨head, stock, children⟩).result = .ok () := congrArg Yield.result eu
          have hQ : (act ⟨head', stock', children'⟩).result = .ok () := congrArg Yield.result ev
          have hnoted : (act ⟨head, stock, children⟩).notes = notes := congrArg Yield.notes eu
          have halike := hact x List.mem_cons_self ⟨head, stock, children⟩
            ⟨head', stock', children'⟩ hu hv hP (hnoted ▸ hfirst) hQ
          have hleft : (act ⟨head, stock, children⟩).state.whole = u' := congrArg Yield.state eu
          have hright : (act ⟨head', stock', children'⟩).state.whole = v' :=
            congrArg Yield.state ev
          rwa [hleft, hright] at halike

/-- Walking below two elements that were the same leads to nodes that look alike. -/
lemma below_alike {act : Local (Element Unit) Unit} (hready : ReadyToFill d h ts P Q)
    (hshown : h.showsValue d = true → ts.filter Tree.isElement = [])
    (hclears : h.fills d ContentOperator.clears = false)
    (hcopies : h.fills d ContentOperator.copies = false)
    (hfills : h.fills d ContentOperator.rewords = false) (hact : ∀ t ∈ ts, Renews d act t)
    (hP : (below act P).result = .ok ()) (hnotes : ∀ f ∈ (below act P).notes, f.Formatted)
    (hQ : (below act Q).result = .ok ()) :
    List.Forall₂ Stocked.Alike (below act P).state.children (below act Q).state.children := by
  cases hshows : h.showsValue d with
  | true =>
    have hrewords : h.rewords d = true := by simp [Head.rewords, hshows]
    have hsame := hready.shown hshows hclears hcopies
    have hnone := hready.left.elements_eq_nil hrewords hclears (hshown hshows)
    have hleft := sweep_texts act hnone
    have hright := sweep_texts act (hsame ▸ hnone)
    change List.Forall₂ Stocked.Alike (sweep (P.children.map fun t => (t, act))).state
      (sweep (Q.children.map fun t => (t, act))).state
    rw [hleft, hright, hsame]
    exact Stocked.alike_self _
  | false =>
    have hrewords : h.rewords d = false := by simp [Head.rewords, hshows, hfills]
    have hsettled {α : Type} (isElement : α → Bool) (us : List α) :
        h.settled d isElement us = us := by
      unfold Head.settled
      rw [if_neg (by simp [hrewords])]
    have hleft := hready.left.kept hclears hcopies
    have hright := hready.right.kept hclears hcopies
    rw [hsettled, hsettled] at hleft hright
    exact sweep_alike hleft hright hact hP hnotes hQ

/-! ## Operators that fill an element -/

/-- Faults that are equal but for the element are none of a formatter if the others are not. -/
lemma formatted_of_blur {notes noted : List Fault} (h : ∀ f ∈ notes, f.Formatted)
    (hblur : notes.map Fault.blur = noted) : ∀ f ∈ noted, f.Formatted := by
  subst hblur
  exact List.forall_mem_map.2 h

/-- An operator that makes no copies refills two elements that were the same in a way that leaves
nothing of what made them different. -/
lemma plain_alike {operator : ContentOperator} (hready : ReadyToFill c.engine.dialect h ts P Q)
    (hfills : ∀ p, h.fills c.engine.dialect p = p operator) (hplain : operator.plain = true)
    (hnumbering : operator ≠ .numbering)
    (hP : (content c walk [] scope operand operator P).result = .ok inner?)
    (hnotes : ∀ f ∈ (content c walk [] scope operand operator P).notes, f.Formatted)
    (hQ : (content c walk [] scope operand operator Q).result = .ok inner?') :
    List.Forall₂ Stocked.Alike (content c walk [] scope operand operator P).state.children
      (content c walk [] scope operand operator Q).state.children := by
  obtain ⟨-, r, noted, hrenews, hall⟩ := content_refills hplain hP
  obtain ⟨notes, hrunP, hblur⟩ := hall P ⟨rfl, rfl⟩ fun e => elements_of_text (e ▸ hP)
  obtain ⟨_, hrunQ, -⟩ := hall Q (hready.left.head.agrees.readsLike hready.right.head.agrees)
    fun e => elements_of_text (e ▸ hQ)
  rw [hrunP] at hnotes ⊢
  rw [hrunQ]
  have hr := hrenews (formatted_of_blur hnotes hblur)
  have hreplaces (hr : r.Replaces) :
      List.Forall₂ Stocked.Alike (r.apply P.children) (r.apply Q.children) := by
    cases r with
    | put us => exact Stocked.alike_self us
    | _ => cases hr
  cases operator with
  | html => exact hreplaces hr
  | options => exact hreplaces hr
  | text =>
    cases r with
    | keep => exact absurd rfl hr
    | put us => exact Stocked.alike_self us
    | dropTexts =>
      -- the texts are gone, and nothing has walked the elements that stay
      have hleft := hready.left.unwalked rfl (hfills _) (hfills _)
      have hright := hready.right.unwalked rfl (hfills _) (hfills _)
      change List.Forall₂ Stocked.Alike (P.children.filter Stocked.isElement)
        (Q.children.filter Stocked.isElement)
      rw [hleft, hright]
      exact Stocked.alike_self _
  | numbering => exact absurd rfl hnumbering
  | object => cases hplain
  | list => cases hplain
  | map => cases hplain

/-- An operator that copies templates makes the same copies in two elements that give the same
templates. -/
lemma copying_alike {β : Type} {operator : Operator} {take : Local (Element Unit) β}
    {fillIn : β → Local (Element Unit) Unit} (htakes : Takes take)
    (hfillIn : ∀ b, FillsAnyElement (fillIn b)) {b : β}
    (htakeP : (take P).result = .ok b) (htakeQ : (take Q).result = .ok b)
    (hP : (copying operator operand take fillIn P).result = .ok inner?) :
    List.Forall₂ Stocked.Alike (copying operator operand take fillIn P).state.children
      (copying operator operand take fillIn Q).state.children := by
  obtain ⟨us, noted, hall⟩ := copying_of_ok htakes hfillIn htakeP hP
  obtain ⟨_, hrunP, -⟩ := hall P htakeP
  obtain ⟨_, hrunQ, -⟩ := hall Q htakeQ
  rw [hrunP, hrunQ]
  exact Stocked.alike_self us

/-- An operator that fills an element, and opens no scope, puts into two elements that were the same
what looks alike. -/
lemma content_alike {operator : ContentOperator} (hready : ReadyToFill c.engine.dialect h ts P Q)
    (hfills : ∀ p, h.fills c.engine.dialect p = p operator) (hobject : operator ≠ .object)
    (hP : (content c walk [] scope operand operator P).result = .ok inner?)
    (hnotes : ∀ f ∈ (content c walk [] scope operand operator P).notes, f.Formatted)
    (hQ : (content c walk [] scope operand operator Q).result = .ok inner?') :
    List.Forall₂ Stocked.Alike (content c walk [] scope operand operator P).state.children
      (content c walk [] scope operand operator Q).state.children := by
  cases operator with
  | text => exact plain_alike hready hfills rfl (by simp) hP hnotes hQ
  | html => exact plain_alike hready hfills rfl (by simp) hP hnotes hQ
  | options => exact plain_alike hready hfills rfl (by simp) hP hnotes hQ
  | object => exact absurd rfl hobject
  | numbering =>
    rw [state_numbering, state_numbering]
    suffices hsame : P.children = Q.children by
      rw [hsame]
      exact Stocked.alike_self _
    cases hshows : h.showsValue c.engine.dialect with
    | true => exact hready.shown hshows (hfills _) (hfills _)
    | false =>
      have hstill : h.still c.engine.dialect = true := by
        simp [Head.still, hfills, ContentOperator.numbers, hshows]
      exact (hready.left.still rfl hstill).trans (hready.right.still rfl hstill).symm
  | list ordered =>
    rw [content_list] at hP ⊢
    obtain ⟨-, template, htake⟩ := copying_eq_ok .itemTemplate hP
    have hleft := hready.left.taken (hfills _) (hfills _)
    have hright := hready.right.taken (hfills _) (hfills _)
    cases hts : ts.filter Tree.isElement with
    | nil =>
      obtain ⟨f, he⟩ := hleft.itemTemplate_error (hfills _) hts
      rw [he] at htake
      cases htake
    | cons first others =>
      obtain ⟨_, hrunP⟩ := hleft.itemTemplate (hfills _) hts
      obtain ⟨_, hrunQ⟩ := hright.itemTemplate (hfills _) hts
      exact copying_alike takes_itemTemplate fillsAnyElement_list (congrArg Yield.result hrunP)
        (congrArg Yield.result hrunQ) hP
  | map ordered =>
    rw [content_map] at hP ⊢
    obtain ⟨-, templates, htake⟩ := copying_eq_ok .entryTemplates hP
    have hleft := hready.left.taken (hfills _) (hfills _)
    have hright := hready.right.taken (hfills _) (hfills _)
    by_cases hts : ∃ key value others, ts.filter Tree.isElement = key :: value :: others
    · obtain ⟨key, value, others, hts⟩ := hts
      obtain ⟨_, hrunP⟩ := hleft.entryTemplates (hfills _) hts
      obtain ⟨_, hrunQ⟩ := hright.entryTemplates (hfills _) hts
      exact copying_alike takes_entryTemplates fillsAnyElement_map (congrArg Yield.result hrunP)
        (congrArg Yield.result hrunQ) hP
    · obtain ⟨f, he⟩ := hleft.entryTemplates_error (hfills _) fun key value others he =>
        hts ⟨key, value, others, he⟩
      rw [he] at htake
      cases htake

/-! ## Elements and everything below them -/

variable {enter : List Nat → Value → Bool → Local (Element Unit) Unit}

/-- The nodes below two elements that were the same look alike after they were filled. -/
lemma fill_alike (hready : ReadyToFill c.engine.dialect h ts P Q)
    (hds : Directives.ofAttrs c.engine.dialect h.shell.describe h.attrs = .ok ds)
    (hshown : h.showsValue c.engine.dialect = true → ts.filter Tree.isElement = [])
    (hnone : ds.content? = none → ∀ t ∈ ts, Renews c.engine.dialect (enter [] scope false) t)
    (hobject : ∀ operand, ds.content? = some (.object, operand) →
      ∀ t ∈ ts, Renews c.engine.dialect (enter [] (c.opened scope operand) false) t)
    (hP : (fill c enter [] ds scope false P).result = .ok ())
    (hnotes : ∀ f ∈ (fill c enter [] ds scope false P).notes, f.Formatted)
    (hQ : (fill c enter [] ds scope false Q).result = .ok ()) :
    List.Forall₂ Stocked.Alike (fill c enter [] ds scope false P).state.children
      (fill c enter [] ds scope false Q).state.children := by
  have hfills := Head.fills_of_content? hds
  rw [fill_eq] at hP hQ hnotes ⊢
  cases hcontent : ds.content? with
  | none =>
    rw [hcontent] at hP hQ hnotes hfills
    have hinner (R : Element Unit) : (inner c enter [] scope none >>=
        descend fun scope => enter [] scope false) R = below (enter [] scope false) R := rfl
    simp only [hinner] at hP hQ hnotes ⊢
    exact below_alike hready hshown (hfills _) (hfills _) (hfills _) (hnone hcontent) hP hnotes hQ
  | some declared =>
    obtain ⟨operator, operand⟩ := declared
    rw [hcontent] at hP hQ hnotes hfills
    let walk := fun inside value => enter inside value true
    have hfill : (inner c enter [] scope (some (operator, operand)) >>=
        descend fun scope => enter [] scope false) =
          (content c walk [] scope operand operator >>=
            descend fun scope => enter [] scope false) := rfl
    rw [hfill] at hP hQ hnotes ⊢
    obtain ⟨left, hleft, hrestP, hstateP, hnotesP⟩ := bind_eq_ok hP
    obtain ⟨right, hright, hrestQ, hstateQ, -⟩ := bind_eq_ok hQ
    rw [hstateP, hstateQ]
    rw [hnotesP] at hnotes
    obtain ⟨hfirst, hlater⟩ := List.forall_mem_append.1 hnotes
    by_cases hop : operator = .object
    · subst hop
      -- both elements open the same scope, and are otherwise as they were
      cases object_eq_ok hleft
      cases object_eq_ok hright
      obtain ⟨-, hsameP⟩ := content_some .object hleft
      obtain ⟨-, hsameQ⟩ := content_some .object hright
      rw [hsameP] at hrestP hlater ⊢
      rw [hsameQ] at hrestQ ⊢
      exact below_alike hready hshown (hfills _) (hfills _) (hfills _) (hobject operand hcontent)
        hrestP hlater hrestQ
    · have halike := content_alike hready hfills hop hleft hfirst hright
      have hdone {R : Element Unit} {inner? : Option Value}
          (hok : (content c walk [] scope operand operator R).result = .ok inner?) :
          inner? = none := by
        cases inner? with
        | none => rfl
        | some inner => exact absurd (content_some operator hok).1 hop
      cases hdone hleft
      cases hdone hright
      exact halike

/-- Elements that differ in what fills them alone look alike after they were filled. -/
lemma whole_alike_of_fill (hready : ReadyToFill c.engine.dialect h ts P Q)
    (hchildren : List.Forall₂ Stocked.Alike (fill c enter [] ds scope false P).state.children
      (fill c enter [] ds scope false Q).state.children) :
    (fill c enter [] ds scope false P).state.whole.Alike
      (fill c enter [] ds scope false Q).state.whole := by
  have hheadP : (fill c enter [] ds scope false P).state.head = P.head :=
    keeps_head_fill P.head P rfl
  have hheadQ : (fill c enter [] ds scope false Q).state.head = Q.head :=
    keeps_head_fill Q.head Q rfl
  refine .element ?_ ?_ ?_ hchildren
  · rw [hheadP, hheadQ, hready.left.head.agrees.1, hready.right.head.agrees.1]
  · rw [hheadP, hheadQ]
    exact hready.attrs
  · rw [hheadP, hheadQ, hready.hidden]

/-- An element that declares neither operators that set attributes nor a condition looks as it did
when it was read. -/
lemma readyToFill_of_scopeless (hP : ElementAfterWalks d false (AfterWalks d false) h ts P)
    (hQ : ElementAfterWalks d false (AfterWalks d false) h ts Q)
    (hds : Directives.ofAttrs d h.shell.describe h.attrs = .ok ds)
    (hscopeless : ds.scopeless = true) : ReadyToFill d h ts P Q := by
  unfold Directives.scopeless at hscopeless
  simp only [Bool.and_eq_true, List.isEmpty_iff, Option.isNone_iff_eq_none] at hscopeless
  obtain ⟨hattributes, hconditional⟩ := hscopeless
  have hsetters : h.setters d = [] := (Head.attributes_eq hds).symm.trans hattributes
  have hundoing : h.undoing d = [] := by rw [Head.undoing, hsetters, List.flatMap_nil]
  have hattrs {R : Element Unit} (hR : ElementAfterWalks d false (AfterWalks d false) h ts R) :
      R.head.attrs = h.attrs := by
    have hsame := hR.head.attrs
    rwa [hundoing] at hsame
  refine ⟨hP, hQ, ?_, ?_, fun hshows => ?_⟩
  · rw [hattrs hP, hattrs hQ]
    exact .refl h.attrs
  · exact (hP.head.hidden ds hds hconditional).trans (hQ.head.hidden ds hds hconditional).symm
  · rw [Head.showsValue, hsetters] at hshows
    cases hshows

/-- What operators make of the texts below two elements that were the same is the same where a value
is shown. -/
lemma childrenAfter_congr {touches : List Touch} {us vs : List (Stocked Unit)}
    (hrewrites : ∃ touch ∈ touches, touch.refill ≠ .keep)
    (hus : us.filter Stocked.isElement = []) (hvs : vs.filter Stocked.isElement = []) :
    childrenAfter touches us = childrenAfter touches vs := by
  have hne := refillOf_ne_keep hrewrites
  rw [childrenAfter_eq, childrenAfter_eq]
  cases hrefill : refillOf touches with
  | keep => exact absurd hrefill hne
  | dropTexts => exact hus.trans hvs.symm
  | put ws => rfl

/-- Decorating two elements that were the same plays the same touches on both, and hides both or
none. -/
lemma decorate_plays {b b' : Bool} (hunmarked : h.Unmarked c.engine.dialect)
    (hds : Directives.ofAttrs c.engine.dialect h.shell.describe h.attrs = .ok ds)
    (hP : ElementAfterWalks c.engine.dialect false (AfterWalks c.engine.dialect false) h ts P)
    (hQ : ElementAfterWalks c.engine.dialect false (AfterWalks c.engine.dialect false) h ts Q)
    (hokP : (decorate c ds scope P).result = .ok b)
    (hnotes : ∀ f ∈ (decorate c ds scope P).notes, f.Formatted)
    (hokQ : (decorate c ds scope Q).result = .ok b') :
    b = !ds.excludes c scope ∧ b' = b ∧ ∃ touches noted notes notes',
      DoesAll c h.shell scope ds.attributes touches noted ∧ (∀ f ∈ noted, f.Formatted) ∧
      decorate c ds scope P =
        ⟨.ok b, (P.after touches).hide (ds.conditional?.map fun _ => !b), notes⟩ ∧
      decorate c ds scope Q =
        ⟨.ok b, (Q.after touches).hide (ds.conditional?.map fun _ => !b), notes'⟩ := by
  rw [decorate_eq] at hokP hnotes hokQ ⊢
  -- both are read like the element as it was declared
  let R : Element Unit := ⟨h, [], []⟩
  have hreads {S : Element Unit}
      (hS : ElementAfterWalks c.engine.dialect false (AfterWalks c.engine.dialect false) h ts S) :
      R.ReadsLike c.engine.dialect S := (Head.Agrees.refl h).readsLike hS.head.agrees
  have hops : Unreserved c.engine.dialect R.shell ds.attributes := hunmarked.unreserved_of hds
  obtain ⟨_, hattributes, hreveal, -, -⟩ := bind_eq_ok hokP
  obtain ⟨touches, noted, hdoesP⟩ := doesAll_of_ok ((hreads hP).unreserved hops) hattributes
  have hdoes : DoesAll c h.shell scope ds.attributes touches noted :=
    hdoesP.congr (hP.head.agrees.readsLike (Q := R) (.refl h))
  obtain ⟨first, hrunP, hblur⟩ := hdoesP.run ((hreads hP).unreserved hops)
  obtain ⟨first', hrunQ, -⟩ := (hdoes.congr (hreads hQ)).run ((hreads hQ).unreserved hops)
  rw [hrunP] at hreveal
  -- whether an element is shown depends on the model and the scope alone
  obtain ⟨hb, hall⟩ := reveal_eq_ok hreveal
  obtain ⟨later, hrevealP⟩ := hall (P.after touches)
  obtain ⟨later', hrevealQ⟩ := hall (Q.after touches)
  have hleft : (attributes c scope ds.attributes >>= fun _ => reveal c ds scope) P = ⟨.ok b,
      (P.after touches).hide (ds.conditional?.map fun _ => !b), first ++ later⟩ := by
    rw [bind_of_ok hrunP, hrevealP]
  have hright : (attributes c scope ds.attributes >>= fun _ => reveal c ds scope) Q = ⟨.ok b,
      (Q.after touches).hide (ds.conditional?.map fun _ => !b), first' ++ later'⟩ := by
    rw [bind_of_ok hrunQ, hrevealQ]
  rw [hleft] at hnotes
  rw [hright] at hokQ
  cases hokQ
  exact ⟨hb, rfl, touches, noted, _, _, hdoes,
    formatted_of_blur (List.forall_mem_append.1 hnotes).1 hblur, hleft, hright⟩

/-- Decorating two elements that were the same makes them differ in what fills them alone. -/
lemma decorate_readyToFill {b b' : Bool}
    (hresettable : (⟨h, [], ts.map ofTree⟩ : Element Unit).Resettable c.engine.dialect)
    (hdistinct : (h.attrs.map Prod.fst).Nodup)
    (hds : Directives.ofAttrs c.engine.dialect h.shell.describe h.attrs = .ok ds)
    (hP : ElementAfterWalks c.engine.dialect false (AfterWalks c.engine.dialect false) h ts P)
    (hQ : ElementAfterWalks c.engine.dialect false (AfterWalks c.engine.dialect false) h ts Q)
    (hokP : (decorate c ds scope P).result = .ok b)
    (hnotes : ∀ f ∈ (decorate c ds scope P).notes, f.Formatted)
    (hokQ : (decorate c ds scope Q).result = .ok b') :
    b = !ds.excludes c scope ∧ b' = b ∧
      ReadyToFill c.engine.dialect h ts (decorate c ds scope P).state
      (decorate c ds scope Q).state ∧
      (b = false → (decorate c ds scope P).state.head.hidden = true) := by
  have hkeeps :
      Keeps (ElementAfterWalks c.engine.dialect false (AfterWalks c.engine.dialect false) h ts)
      (decorate c ds scope) := keeps_elementAfterWalks_decorate hresettable hds
  have hwalkedP := hkeeps P hP
  have hwalkedQ := hkeeps Q hQ
  obtain ⟨hb, rfl, touches, noted, _, _, hdoes, hnoted, hrunP, hrunQ⟩ :=
    decorate_plays hresettable.unmarked hds hP hQ hokP hnotes hokQ
  rw [hrunP] at hwalkedP ⊢
  rw [hrunQ] at hwalkedQ ⊢
  refine ⟨hb, rfl, ⟨hwalkedP, hwalkedQ, ?_, ?_, fun hshows hclears hcopies => ?_⟩,
    fun hhidden => ?_⟩
  · -- the touches write all attributes in which the two can differ
    have hover := hdoes.overwrites hnoted
    rw [Head.attributes_eq hds] at hover
    refine rearranged_attrsAfter (h.undoes_undoing c.engine.dialect)
      (hP.head.attrs.trans hQ.head.attrs.symm) hover (fun touch ht => ?_)
      (hP.head.nodup hdistinct) (hQ.head.nodup hdistinct)
    obtain ⟨op, hop, hcovers⟩ := hdoes.covers touch ht
    rw [Head.attributes_eq hds] at hop
    exact (hresettable.classed.within hop hcovers).proper
  · cases hconditional : ds.conditional? with
    | none =>
      exact (hP.head.hidden ds hds hconditional).trans (hQ.head.hidden ds hds hconditional).symm
    | some declared => rfl
  · -- a value that is shown replaces all texts, and there was nothing else below the element
    have hnone : ts.filter Tree.isElement = [] := hresettable.elements_eq_nil hshows
    have hrewords : h.rewords c.engine.dialect = true := by simp [Head.rewords, hshows]
    obtain ⟨op, hop, hvalue⟩ := List.any_eq_true.1 hshows
    simp only [Bool.and_eq_true, beq_iff_eq, Bool.not_eq_true'] at hvalue
    rw [← Head.attributes_eq hds] at hop
    exact childrenAfter_congr (hdoes.rewrites hnoted ⟨op, hop, hvalue.1⟩ hvalue.2)
      (hP.elements_eq_nil hrewords hclears hnone) (hQ.elements_eq_nil hrewords hclears hnone)
  · subst hhidden
    cases hconditional : ds.conditional? with
    | none =>
      rw [Directives.excludes, hconditional] at hb
      cases hb
    | some declared => rfl

/-- Elements that were the same look alike after a scope was injected into them, where those that
set attributes have a scope to read from. -/
lemma injectDirectives_alike
    (hresettable : (⟨h, [], ts.map ofTree⟩ : Element Unit).Resettable c.engine.dialect)
    (hdistinct : (h.attrs.map Prod.fst).Nodup)
    (hds : Directives.ofAttrs c.engine.dialect h.shell.describe h.attrs = .ok ds)
    (hscope : scope.isNull = true → ds.scopeless = true)
    (hnone : ds.excludes c scope = false → ds.content? = none →
      ∀ t ∈ ts, Renews c.engine.dialect (enter [] scope false) t)
    (hobject : ds.excludes c scope = false → ∀ operand, ds.content? = some (.object, operand) →
      ∀ t ∈ ts, Renews c.engine.dialect (enter [] (c.opened scope operand) false) t)
    (hP : ElementAfterWalks c.engine.dialect false (AfterWalks c.engine.dialect false) h ts P)
    (hQ : ElementAfterWalks c.engine.dialect false (AfterWalks c.engine.dialect false) h ts Q)
    (hokP : (injectDirectives c enter [] ds scope false P).result = .ok ())
    (hnotes : ∀ f ∈ (injectDirectives c enter [] ds scope false P).notes, f.Formatted)
    (hokQ : (injectDirectives c enter [] ds scope false Q).result = .ok ()) :
    (injectDirectives c enter [] ds scope false P).state.whole.Alike
      (injectDirectives c enter [] ds scope false Q).state.whole := by
  unfold injectDirectives at hokP hnotes hokQ ⊢
  cases hnull : scope.isNull with
  | true =>
    simp only [hnull, if_true] at hokP hnotes hokQ ⊢
    have hscopeless := hscope hnull
    have hexcludes : ds.excludes c scope = false := by
      simp only [Directives.scopeless, Bool.and_eq_true, Option.isNone_iff_eq_none] at hscopeless
      rw [Directives.excludes, hscopeless.2]
    -- in a null scope an element without attributes to set is only filled
    have hready := readyToFill_of_scopeless hP hQ hds hscopeless
    exact whole_alike_of_fill hready (fill_alike hready hds hresettable.elements_eq_nil
      (hnone hexcludes) (hobject hexcludes) hokP hnotes hokQ)
  | false =>
    simp only [hnull, Bool.false_eq_true, if_false] at hokP hnotes hokQ ⊢
    obtain ⟨b, hdecorateP, hrestP, hstateP, hnotesP⟩ := bind_eq_ok hokP
    obtain ⟨b', hdecorateQ, hrestQ, hstateQ, -⟩ := bind_eq_ok hokQ
    rw [hnotesP] at hnotes
    obtain ⟨hfirst, hlater⟩ := List.forall_mem_append.1 hnotes
    obtain ⟨hb, rfl, hready, hhidden⟩ :=
      decorate_readyToFill hresettable hdistinct hds hP hQ hdecorateP hfirst hdecorateQ
    rw [hstateP, hstateQ]
    cases b' with
    | false => exact .hidden (hhidden rfl) (hready.hidden.symm.trans (hhidden rfl))
    | true =>
      have hexcludes : ds.excludes c scope = false := by
        cases he : ds.excludes c scope with
        | false => rfl
        | true =>
          rw [he] at hb
          cases hb
      exact whole_alike_of_fill hready (fill_alike hready hds hresettable.elements_eq_nil
        (hnone hexcludes) (hobject hexcludes) hrestP hlater hrestQ)

/-- What injecting a scope into an element and everything below it leads to does not depend on what
was injected before, where all elements that set attributes have a scope to read from. -/
lemma inject_alike (room depth : Nat) (scope : Value) {t : Tree Unit}
    (hresettable : t.Resettable c.engine.dialect) (hdistinct : t.Distinct)
    (hgrounded : t.grounded c scope = true) :
    Renews c.engine.dialect (inject c room depth [] scope false) t := by
  induction room generalizing depth scope t with
  | zero =>
    intro P Q _ _ hok
    cases hok
  | succ room ih =>
    intro P Q hP hQ hokP hnotes hokQ
    cases t with
    | text => exact nomatch hP
    | element label tag attrs hidden ts =>
      let h : Head := ⟨tag, attrs, hidden⟩
      obtain ⟨hself, hchildren⟩ := Tree.resettable_element.1 hresettable
      obtain ⟨hnodup, hbelow⟩ := Tree.distinct_element.1 hdistinct
      have hwalkedP : ElementAfterWalks c.engine.dialect false (AfterWalks c.engine.dialect false) h
          ts P := .of_afterWalks hP
      have hwalkedQ : ElementAfterWalks c.engine.dialect false (AfterWalks c.engine.dialect false) h
          ts Q := .of_afterWalks hQ
      unfold inject at hokP hnotes hokQ ⊢
      obtain ⟨ds, hdirectives, hrestP, hstateP, hnotesP⟩ := bind_eq_ok hokP
      obtain ⟨hds, hrunP⟩ := directives_eq_ok hdirectives
      have hds' : Directives.ofAttrs c.engine.dialect h.shell.describe h.attrs = .ok ds :=
        Directives.ofAttrs_congr hds hwalkedP.head.agrees.symm.2
      have hrunQ : directives c.engine.dialect Q = ⟨.ok ds, Q, []⟩ :=
        directives_of_ok (Directives.ofAttrs_congr hds' hwalkedQ.head.agrees.2)
      rw [hrunP] at hrestP hstateP hnotesP
      rw [bind_of_ok hrunQ] at hokQ ⊢
      rw [hstateP]
      rw [hnotesP] at hnotes
      obtain ⟨hscope, hnone, hobject⟩ := Tree.grounded_element hds' hgrounded
      -- the walk goes on below with the scope itself, or with the one that a directive opens
      have henter (inner : Value) (hall : ∀ t ∈ ts, t.grounded c inner = true) :
          ∀ t ∈ ts, Renews c.engine.dialect (inject c room (depth + 1) [] inner false) t :=
        fun t ht => ih (depth + 1) inner (hchildren t ht) (hbelow t ht) (hall t ht)
      exact injectDirectives_alike hself hnodup hds' hscope
        (fun hexcludes hcontent => henter scope (hnone hexcludes hcontent))
        (fun hexcludes operand hcontent => henter _ (hobject hexcludes operand hcontent))
        hwalkedP hwalkedQ hrestP hnotes hokQ

end Local

end TreeTemplate
