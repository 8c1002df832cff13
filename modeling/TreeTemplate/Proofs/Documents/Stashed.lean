import TreeTemplate.Proofs.Documents.Confined
import TreeTemplate.Proofs.Follow.Entries
import TreeTemplate.Proofs.Follow.Spots
import TreeTemplate.Proofs.Injection.Fit

/-!
# What a template has stashed

The nodes that a template has stashed are tops of different trees of the document, whatever calls
there were. The elements that they are stashed for are elements of the document as long as no entry
is one of a stashed node itself: such an entry stays when the node is removed with the list or map
that it was taken from, and whatever node gets its identity later finds a template there.

Main statements:

* `Stash.Detached`, `Stash.Current` — the templates of a stash, and the elements that it is for;
* `Template.Admits` — calls that keep a stash current;
* `afterCalls_stash` — the stash of a document that was read, after any calls.
-/

namespace TreeTemplate

open Stocked (at? put)

variable {t : Template} {d : Document} {e : Engine} {T : Stocked NodeId} {call : Call}

/-- No element has two entries in a stash, and its templates are elements of the document without a
parent, of which none is below another one. -/
structure Stash.Detached (s : Stash) (d : Document) : Prop where
  keys : (s.entries.map Prod.fst).Nodup
  live : ∀ n ∈ s.templates, ∃ t, d.find? n = some t ∧ t.isElement = true
  parent : ∀ n ∈ s.templates, d.parent? n = none
  disjoint : s.templates.Pairwise fun m n => ∀ t u, d.find? m = some t → d.find? n = some u →
    t.released.Disjoint u.released

/-- The entries of a stash are for elements of the document. -/
def Stash.Current (s : Stash) (d : Document) : Prop :=
  ∀ entry ∈ s.entries, ∃ t, d.find? entry.1 = some t ∧ t.isElement = true

namespace Walk

variable {s : State} {kept : List NodeId} {ts : List (Tree NodeId)}

/-- Templates at the tops of different trees are detached. -/
lemma Anchors.detached (h : Anchors s kept ts) : s.stash.Detached s.document := by
  have htop {n : NodeId} (hn : n ∈ s.stash.templates) : ∃ t rest, ts.Perm (t :: rest) ∧
      t.label = n ∧ t.isElement = true ∧ s.document.Has (Tree.Context.top.plug t :: rest) := by
    obtain ⟨t, rest, hp, hl, helement⟩ := h.exists_top (.inr hn)
    exact ⟨t, rest, hp, hl, helement, h.document.perm hp⟩
  refine ⟨h.keys, fun n hn => ?_, fun n hn => ?_, ?_⟩
  · obtain ⟨t, rest, -, rfl, helement, hhas⟩ := htop hn
    exact ⟨t, hhas.find?, helement⟩
  · obtain ⟨t, rest, -, rfl, -, hhas⟩ := htop hn
    exact Document.Has.parent?_top hhas
  · have hnodup : s.stash.templates.Nodup := List.nodup_iff_count_le_one.2 fun n => by
      have hle := h.count_le_one n
      omega
    refine hnodup.imp_of_mem fun {m n} hm hn hne t u ht hu => ?_
    obtain ⟨t', rest, hp, rfl, -, hhas⟩ := htop hm
    obtain ⟨u', others, hp', rfl, -, hhas'⟩ := htop hn
    obtain rfl : t' = t := Option.some.inj (hhas.find?.symm.trans ht)
    obtain rfl : u' = u := Option.some.inj (hhas'.find?.symm.trans hu)
    -- the second tree is another one than the first, and no identity is in two trees
    have hmem : u' ∈ t' :: rest := hp.mem_iff.1 (hp'.mem_iff.2 List.mem_cons_self)
    have hrest := (List.mem_cons.1 hmem).resolve_left fun e => hne (e ▸ rfl)
    have hids := hhas.sound.nodup
    rw [Tree.releasedOf_cons] at hids
    exact fun n hn hn' =>
      List.disjoint_of_nodup_append hids hn (Tree.released_subset_of_mem hrest hn')

end Walk

/-! ## Calls -/

/-- A call that keeps the stash of a template current: it begins at an attached element, none of the
nodes that it can enter is left by a jump, and nothing is stashed for a template itself. -/
structure Template.Admits (e : Engine) (t : Template) (d : Document) (call : Call) : Prop where
  attached : ∃ u ∈ d.attached, u.isElement = true ∧ u.label = call.element?.getD t.root
  unjumped : ∀ u ∈ Tree.enteredOf e.dialect
    ((call.element?.getD t.root :: t.stash.templates).filterMap d.find?), u.head.JumpFree e.dialect
  unkeyed : ∀ n ∈ t.stash.templates, t.stash.find? n = none

/-- Each of some calls, when it is made, keeps the stash current. -/
def Template.AdmitsAll (e : Engine) (t : Template) (d : Document) : List Call → Prop
  | [] => True
  | call :: calls =>
    t.Admits e d call ∧
      AdmitsAll e (call.run e t d).template (call.run e t d).document calls

instance : Decidable (t.Admits e d call) :=
  decidable_of_iff (_ ∧ _ ∧ _) ⟨fun ⟨h, h', h''⟩ => ⟨h, h', h''⟩,
    fun h => ⟨h.attached, h.unjumped, h.unkeyed⟩⟩

/-- It can be tried out whether calls keep a stash current. -/
instance Template.decidableAdmitsAll (e : Engine) (t : Template) (d : Document) :
    (calls : List Call) → Decidable (t.AdmitsAll e d calls)
  | [] => inferInstanceAs (Decidable True)
  | call :: calls =>
    have := decidableAdmitsAll e (call.run e t d).template (call.run e t d).document calls
    inferInstanceAs (Decidable (_ ∧ _))

namespace Template.HoldsStocked

/-- A document that holds a tree has the elements of all entries. -/
lemma current (h : t.HoldsStocked d T) : t.stash.Current d := by
  intro entry hentry
  obtain ⟨u, hu, helement, hl⟩ := Stocked.exists_of_mem_entries (h.entries_perm.mem_iff.1 hentry)
  exact ⟨u, hl ▸ h.has.find?_of_mem_nodes hu, helement⟩

/-- A call that keeps the stash current begins at a spot that walks can enter. -/
lemma exists_entered (h : t.HoldsStocked d T) (hfit : T.Fit) (hadmits : t.Admits e d call) :
    ∃ (p : List Nat) (x : Element NodeId),
      at? p T = some (x.labelled (call.element?.getD t.root)) ∧ Entered e.dialect x.bare.whole := by
  obtain ⟨a, ha, helement, hl⟩ := hadmits.attached
  obtain ⟨p, x, hx, htree⟩ := h.exists_spot ha helement
  have hentered {n : NodeId} (hn : n ∈ call.element?.getD t.root :: t.stash.templates)
      {u : Tree NodeId} (hu : d.find? n = some u) : ∀ v ∈ u.entered e.dialect,
        v.head.JumpFree e.dialect := fun v hv => hadmits.unjumped v
    (Tree.mem_enteredOf.2 ⟨u, List.mem_filterMap.2 ⟨n, hn, hu⟩, hv⟩)
  have htidy : T.Tidy := by
    refine Stocked.tidy_of_unkeyed hfit h.entries_perm.symm.subset fun entry hentry m hm hkey => ?_
    have hnone := hadmits.unkeyed m (List.mem_flatMap.2 ⟨entry, hentry, hm⟩)
    obtain ⟨entry', hentry', rfl⟩ := List.mem_map.1 hkey
    simpa using List.lookup_eq_none_iff.1 hnone entry' hentry'
  have hunjumped : (x.labelled a.label).Unjumped e.dialect := by
    refine Stocked.unjumped_of_entered ?_ fun r hr => ?_
    · rw [htree]
      exact hentered List.mem_cons_self (hl ▸ h.has.find?_of_mem_nodes
        (Tree.mem_nodesOf.2 ⟨T.tree, List.mem_cons_self, htree ▸ Stocked.mem_nodes_of_at? hx⟩))
    · have hroot := Stocked.roots_subset_of_at? hx hr
      have htemplate : r.label ∈ t.stash.templates := by
        refine (h.entries_perm.flatMap_right _).mem_iff.2 ?_
        exact Stocked.labels_roots hfit ▸ List.mem_map_of_mem hroot
      exact hentered (List.mem_cons_of_mem _ htemplate) (h.has.find?_of_mem_nodes
        (Tree.mem_nodesOf.2 ⟨r, List.mem_cons_of_mem _ hroot, Tree.self_mem_nodes r⟩))
  refine ⟨p, x, hl ▸ hx, ?_⟩
  rw [← Element.bare_labelled x a.label]
  exact ⟨Stocked.fit_bare.2 (Stocked.All.at? hfit hx),
    Stocked.tidy_bare.2 (Stocked.All.at? htidy hx),
    Stocked.allBut_bare.2 hunjumped⟩

/-- A call that keeps the stash current leaves a document that holds a tree. -/
lemma afterCall (h : t.HoldsStocked d T) (hfit : T.Fit) (hadmits : t.Admits e d call) : ∃ T',
    (call.run e t d).template.HoldsStocked (call.run e t d).document T' ∧ T'.Fit := by
  obtain ⟨p, x, hx, hentered⟩ := h.exists_entered hfit hadmits
  have hrun {walk : Walk Unit} {act : Local (Element Unit) Unit}
      (hwalk : ∀ {s : Walk.State} {φ : Frame}, Holds s ⟨call.element?.getD t.root, [], 0⟩ φ x →
        Reaches s (Shows ⟨call.element?.getD t.root, [], 0⟩ φ) (walk s) (act x.bare))
      (hact : Local.Keeps Element.Fit act) : ∃ T',
        (t.run d walk).template.HoldsStocked (t.run d walk).document T' ∧ T'.Fit := by
    obtain ⟨y, hy, -, hleft⟩ := h.run hx hwalk
    refine ⟨_, hleft, hfit.put (Stocked.fit_bare.1 ?_) p⟩
    rw [Element.bare_labelled, hy]
    exact hact x.bare hentered.1
  cases call with
  | inject model =>
    simp only [Call.run, Template.inject]
    split
    · exact ⟨T, h, hfit⟩
    · exact hrun (fun hholds => inject_follows ⟨e, model⟩ _ 0 model false rfl hentered hholds)
        (Local.keeps_fit_inject _ _ _ _ _)
  | reset =>
    exact hrun (fun hholds => reset_follows _ 0 rfl hentered hholds) (Local.keeps_fit_reset _ _ _)
  | injectElement n value =>
    simp only [Call.run, Template.injectElement]
    split
    · exact hrun (fun hholds => reset_follows _ 0 rfl hentered hholds) (Local.keeps_fit_reset _ _ _)
    · exact hrun (fun hholds => injectSubtree_follows ⟨e, value⟩ _ hentered hholds)
        (Local.keeps_fit_injectSubtree _ _ _ _)
  | resetElement n =>
    exact hrun (fun hholds => reset_follows _ 0 rfl hentered hholds) (Local.keeps_fit_reset _ _ _)

/-- Calls one after another that keep the stash current leave it current. -/
lemma afterCalls_current (h : t.HoldsStocked d T) (hfit : T.Fit) {calls : List Call}
    (hadmits : t.AdmitsAll e d calls) :
    (t.afterCalls e d calls).1.stash.Current (t.afterCalls e d calls).2 := by
  induction calls generalizing t d T with
  | nil => exact h.current
  | cons call calls ih =>
    obtain ⟨T', h', hfit'⟩ := h.afterCall hfit hadmits.1
    exact ih h' hfit' hadmits.2

end Template.HoldsStocked

/-- A document without jumps that can get none keeps what it has stashed current while models are
injected into it as a whole. -/
lemma Template.Presents.afterCalls_current {P : Element Unit} (h : t.Presents d P)
    (hP : P.whole.TemplatesIntact e.dialect) {calls : List Call}
    (hcalls : ∀ call ∈ calls, call.isWhole) :
    (t.afterCalls e d calls).1.stash.Current (t.afterCalls e d calls).2 := by
  obtain ⟨Q, ⟨-, R, -, hholds⟩, -⟩ := h.afterCalls hP (fun _ h => h)
    (fun m => Local.keeps_templatesIntact_inject (c := ⟨e, m⟩) _ 0 [] m false)
    (Local.keeps_templatesIntact_reset _ 0) hcalls
  have hstocked : (t.afterCalls e d calls).1.HoldsStocked (t.afterCalls e d calls).2
      (R.labelled Document.root) := ⟨rfl, holdsTree_labelled.2 hholds⟩
  exact hstocked.current

/-- Whatever calls there are for a template of a document that was read, what it stashes are tops of
different trees of the document, and no element has two entries. Every entry is for an element of
the document if no call could enter an element that is left by a jump, or was made while something
was stashed for a template itself. That is so for any calls that begin at the document node where no
element declares a jump and no clause can make one. -/
theorem afterCalls_stash {markup : String} (h : Document.parse markup = .ok d) (root : NodeId)
    (calls : List Call) :
    let left := (Template.ofRoot root).afterCalls e d calls
    left.1.stash.Detached left.2 ∧
      ((Template.ofRoot root).AdmitsAll e d calls → left.1.stash.Current left.2) ∧
      (root = Document.root →
        (∀ t ∈ d.elements, t.head.JumpFree e.dialect ∧ t.head.Unmarked e.dialect) →
        (∀ call ∈ calls, call.isWhole = true) → left.1.stash.Current left.2) := by
  refine ⟨?_, fun hadmits => ?_, fun hroot hheads hcalls => ?_⟩
  · obtain ⟨ts, hts⟩ := (Template.anchored_of_parse h root).afterCalls (e := e) calls
    exact hts.detached
  · obtain ⟨trees, -, hpresents⟩ := Template.Presents.of_parse h
    obtain ⟨T, hstocked, hbare⟩ := Template.HoldsStocked.of_presents hpresents root
    refine hstocked.afterCalls_current (Stocked.fit_bare.1 ?_) hadmits
    rw [hbare, Element.whole_ofTrees]
    exact Stocked.fit_ofTree _
  · obtain ⟨trees, hpresents, hintact, -⟩ := Template.Presents.templatesIntact_of_parse h
      (p := fun _ => True) (fun t ht => (hheads t ht).1) (fun t ht => (hheads t ht).2) trivial
      fun _ _ => trivial
    exact hroot ▸ hpresents.afterCalls_current hintact hcalls

set_option maxRecDepth 2000 in
/-- A list of lists is injected as a whole, and then a value into the list that is its only item. -/
theorem afterCalls_stash_nested : ∃ d,
    Document.parse "<ul data-list=\".\"><li data-list=\".\"><b/></li></ul>" = .ok d ∧
    let calls : List Call := [.inject (.list [.list []]), .injectElement ⟨4⟩ (.list [.string "x"])]
    let left := (Template.ofRoot Document.root).afterCalls {} d calls
    left.2.markup = "<ul data-list=\".\"><li data-list=\".\"><b>x</b></li></ul>" ∧
      left.1.stash.entries = [(⟨4⟩, .item ⟨5⟩), (⟨1⟩, .item ⟨2⟩)] ∧
      left.1.stash.Detached left.2 ∧ left.1.stash.Current left.2 := by
  let calls : List Call := [.inject (.list [.list []]), .injectElement ⟨4⟩ (.list [.string "x"])]
  obtain ⟨d, hparse, hmarkup, hentries, hadmits⟩ := exists_ok_of_check
    (Document.parse "<ul data-list=\".\"><li data-list=\".\"><b/></li></ul>")
    (p := fun d =>
      let left := (Template.ofRoot Document.root).afterCalls {} d calls
      left.2.markup = "<ul data-list=\".\"><li data-list=\".\"><b>x</b></li></ul>" ∧
        left.1.stash.entries = [(⟨4⟩, .item ⟨5⟩), (⟨1⟩, .item ⟨2⟩)] ∧
        (Template.ofRoot Document.root).AdmitsAll {} d calls)
    (by decide +kernel)
  obtain ⟨hdetached, hcurrent, -⟩ := afterCalls_stash (e := {}) hparse Document.root calls
  exact ⟨d, hparse, hmarkup, hentries, hdetached, hcurrent hadmits⟩

set_option maxRecDepth 2000 in
/-- An entry stays for an element that is no longer there. The list in a list is filled by itself,
and then it is taken as the template of the list around it, which is removed with all that is below
the element that holds it. -/
theorem afterCalls_stash_stale : ∃ d,
    Document.parse
      "<div data-html=\"h\"><ul data-list=\".\"><li data-list=\".\"><b/></li></ul></div>" = .ok d ∧
    (∀ t ∈ d.elements, t.head.JumpFree Dialect.standard) ∧
    ∃ li ∈ d.attached, ∃ ul ∈ d.attached, li.tag = "li" ∧ ul.tag = "ul" ∧
      let first : Call := .injectElement li.label (.list [])
      let second : Call := .injectElement ul.label (.list [])
      let third : Call := .inject (.map [("h", .null)])
      (∃ t ∈ ((Template.ofRoot Document.root).afterCalls {} d [first]).2.attached,
        t.label = ul.label) ∧
      let left := (Template.ofRoot Document.root).afterCalls {} d [first, second, third]
      ¬ left.1.stash.Current left.2 := by
  obtain ⟨d, hparse, hjump, li, hli, ul, hul, hli', hul', hattached, entry, hentry, hnone⟩ :=
    exists_ok_of_check
      (Document.parse
        "<div data-html=\"h\"><ul data-list=\".\"><li data-list=\".\"><b/></li></ul></div>")
      (p := fun d => (∀ t ∈ d.elements, t.head.JumpFree Dialect.standard) ∧
        ∃ li ∈ d.attached, ∃ ul ∈ d.attached, li.tag = "li" ∧ ul.tag = "ul" ∧
          (∃ t ∈ ((Template.ofRoot Document.root).afterCalls {} d
            [.injectElement li.label (.list [])]).2.attached, t.label = ul.label) ∧
          let left := (Template.ofRoot Document.root).afterCalls {} d
            [.injectElement li.label (.list []), .injectElement ul.label (.list []),
              .inject (.map [("h", .null)])]
          ∃ entry ∈ left.1.stash.entries, (left.2.find? entry.1).isNone = true)
      (by decide +kernel)
  refine ⟨d, hparse, hjump, li, hli, ul, hul, hli', hul', hattached, fun hcurrent => ?_⟩
  obtain ⟨t, ht, -⟩ := hcurrent entry hentry
  rw [Option.isNone_iff_eq_none.1 hnone] at ht
  cases ht

end TreeTemplate
