import TreeTemplate.Proofs.Follow.Template
import TreeTemplate.Proofs.Stocked.Spots

/-!
# Walks at spots of a tree

A walk through an element works on the part of the tree that is at the spot of the element, and so
does a call for an element.

Main statements:

* `exists_frame` — what a state holds at a spot, and what it holds of the whole tree;
* `Template.HoldsStocked.injectElement` — a value is injected into the element at a spot.
-/

namespace TreeTemplate

open Stocked (at? put)

/-- A state holds a tree whose top is an element, with a frame around it. -/
def HoldsTree (s : Walk.State) (positions : List Nat) (depth : Nat) (φ : Frame)
    (t : Stocked NodeId) : Prop :=
  ∃ P : Element NodeId, t = P.labelled t.label ∧ Holds s ⟨t.label, positions, depth⟩ φ P

variable {s : Walk.State} {φ : Frame} {positions : List Nat} {depth : Nat} {t : Stocked NodeId}
  {p q : List Nat} {m : NodeId} {x y : Element NodeId}

/-- A state holds a tree if it holds the element at its top. -/
lemma holdsTree_labelled : HoldsTree s positions depth φ (x.labelled m) ↔
    Holds s ⟨m, positions, depth⟩ φ x := by
  refine ⟨fun ⟨P, e, h⟩ => ?_, fun h => ⟨x, rfl, h⟩⟩
  obtain ⟨head, stock, children⟩ := P
  simp only [Element.labelled, Stocked.element.injEq] at e
  obtain ⟨-, rfl, rfl, rfl⟩ := e
  exact h

/-- The frame of what is at a spot is the rest of the tree with the frame around that. -/
lemma exists_frame (h : at? p t = some (x.labelled m)) (φ : Frame) :
    ∃ ψ : Frame, ∀ (s : Walk.State) (y : Element NodeId),
      Holds s ⟨m, positions, depth⟩ ψ y ↔
        HoldsTree s positions depth φ (put (y.labelled m) p t) := by
  induction p generalizing t φ with
  | nil => exact ⟨φ, fun s y => holdsTree_labelled.symm⟩
  | cons i p ih =>
    obtain ⟨c, hc, hbelow⟩ := Option.bind_eq_some_iff.1 h
    cases t with
    | text => simp [Stocked.children] at hc
    | element n head stock children =>
      obtain ⟨hi, rfl⟩ : ∃ hi : i < children.length, children[i] = c :=
        List.getElem?_eq_some_iff.1 hc
      let before := children.take i
      let after := children.drop (i + 1)
      obtain ⟨ψ, hψ⟩ := ih hbelow (φ.inside n head stock before after)
      refine ⟨ψ, fun s y => (hψ s y).trans ?_⟩
      have hput : put (y.labelled m) (i :: p) (.element n head stock children) =
          Element.labelled ⟨head, stock, before ++ put (y.labelled m) p children[i] :: after⟩ n :=
        congrArg (Stocked.element n head stock) (List.modify_eq_take_cons_drop hi)
      -- what is put below the child is an element, whether it is the child itself or not
      obtain ⟨Q, k, hQ⟩ : ∃ (Q : Element NodeId) (k : NodeId),
          put (y.labelled m) p children[i] = Q.labelled k := by
        cases p with
        | nil => exact ⟨y, m, rfl⟩
        | cons j p =>
          cases hchild : children[i] with
          | text label content =>
            rw [hchild] at hbelow
            simp [at?, Stocked.children] at hbelow
          | element k head' stock' children' => exact ⟨⟨head', stock', _⟩, k, rfl⟩
      rw [hput, hQ, holdsTree_labelled, holdsTree_labelled]
      exact Holds.inside_iff

/-! ## Calls -/

namespace Template

variable {e : Engine} {d d' : Document} {T T' : Stocked NodeId} {r : Template}

/-- A document and what a template has stashed for it hold a tree that begins with the document
node. -/
def HoldsStocked (r : Template) (d : Document) (T : Stocked NodeId) : Prop :=
  T.label = Document.root ∧ HoldsTree { document := d, stash := r.stash } [] 0 .alone T

namespace HoldsStocked

/-- What a document presents by a template with nothing stashed it holds for one of any element. -/
lemma of_presents {P : Element Unit} (h : (ofRoot Document.root).Presents d P) (n : NodeId) :
    ∃ T, (ofRoot n).HoldsStocked d T ∧ T.bare = P.whole := by
  obtain ⟨-, Q, hQ, hholds⟩ := h
  refine ⟨Q.labelled Document.root, ⟨rfl, holdsTree_labelled.2 hholds⟩, ?_⟩
  rw [Element.bare_labelled, hQ]

/-- What a document holds is presented by the template of the document node. -/
lemma presents (h : r.HoldsStocked d T) :
    ∃ P : Element Unit, T.bare = P.whole ∧ (⟨Document.root, r.stash⟩ : Template).Presents d P := by
  obtain ⟨hroot, P, hP, hholds⟩ := h
  rw [hroot] at hP hholds
  refine ⟨P.bare, ?_, rfl, P, rfl, hholds⟩
  rw [hP, Element.bare_labelled]

/-- Labels do not count for what can be seen of a document. -/
lemma seen_eq {r' : Template} (h : r.HoldsStocked d T) (h' : r'.HoldsStocked d' T')
    (hbare : T.bare = T'.bare) :
    d.markup = d'.markup ∧ d.elements.map Tree.head = d'.elements.map Tree.head ∧
      d.nodeCount = d'.nodeCount := by
  obtain ⟨P, hP, hpresents⟩ := h.presents
  obtain ⟨P', hP', hpresents'⟩ := h'.presents
  have heq : P = P' := by
    have hwhole : P.whole = P'.whole := hP.symm.trans (hbare.trans hP')
    obtain ⟨head, stock, children⟩ := P
    obtain ⟨head', stock', children'⟩ := P'
    simpa [Element.whole, Element.labelled] using hwhole
  subst heq
  exact ⟨hpresents.markup.trans hpresents'.markup.symm,
    hpresents.heads.trans hpresents'.heads.symm,
    hpresents.nodeCount.trans hpresents'.nodeCount.symm⟩

/-- The trees of a document are the tree that it holds and those of the templates. -/
lemma has (h : r.HoldsStocked d T) : d.Has (T.tree :: T.roots) := by
  obtain ⟨hroot, P, hP, hholds⟩ := h
  have hdocument := hholds.document
  rw [← hP, Frame.alone, List.append_nil] at hdocument
  exact hdocument

/-- What is stashed are the entries of the tree that a document holds. -/
lemma entries_perm (h : r.HoldsStocked d T) : r.stash.entries.Perm T.entries := by
  obtain ⟨hroot, P, hP, hholds⟩ := h
  have hstash := hholds.stash
  rw [← hP, Frame.alone, List.append_nil] at hstash
  exact hstash

/-- An element of a document is at a spot of the tree that the document holds. -/
lemma exists_spot (h : r.HoldsStocked d T) {a : Tree NodeId} (ha : a ∈ d.attached)
    (helement : a.isElement = true) : ∃ (p : List Nat) (x : Element NodeId),
      at? p T = some (x.labelled a.label) ∧ (x.labelled a.label).tree = a := by
  have hfind : d.find? T.tree.label = some T.tree :=
    (show d.Has (Tree.Context.top.plug T.tree :: T.roots) from h.has).find?
  have hattached : d.attached = T.tree.nodes := by
    rw [Document.attached, ← h.1, ← Stocked.label_tree, hfind]
    rfl
  obtain ⟨p, t, hp, htree⟩ := Stocked.exists_at?_of_mem_nodes (hattached ▸ ha)
  cases t with
  | text =>
    rw [← htree] at helement
    cases helement
  | element n head stock children =>
    obtain rfl : n = a.label := by
      rw [← htree, Stocked.label_tree]
      rfl
    exact ⟨p, ⟨head, stock, children⟩, hp, htree⟩

/-- What becomes of a template and its document where a walk follows a local action at a spot. -/
lemma run {walk : Walk Unit} {act : Local (Element Unit) Unit} (h : r.HoldsStocked d T)
    (hx : at? p T = some (x.labelled m))
    (hwalk : ∀ {s : Walk.State} {φ : Frame}, Holds s ⟨m, [], 0⟩ φ x →
      Reaches s (Shows ⟨m, [], 0⟩ φ) (walk s) (act x.bare)) :
    ∃ y : Element NodeId, y.bare = (act x.bare).state ∧
      (r.run d walk).result =
        ((act x.bare).result.map fun _ => (act x.bare).notes).mapError Stop.fault ∧
      (r.run d walk).template.HoldsStocked (r.run d walk).document (put (y.labelled m) p T) := by
  obtain ⟨hroot, hholds⟩ := h
  obtain ⟨ψ, hψ⟩ := exists_frame hx .alone
  have hreaches := hwalk ((hψ _ x).2 (by rwa [Stocked.put_at? hx]))
  obtain ⟨y, hy, hleft⟩ := hreaches.shows
  refine ⟨y, hy, ?_, ?_, ?_⟩
  · have hresult : (r.run d walk).result =
        (walk { document := d, stash := r.stash }).1.map fun _ =>
          (walk { document := d, stash := r.stash }).2.diagnostics := rfl
    rw [hresult, hreaches.result, hreaches.diagnostics]
    cases (act x.bare).result <;> rfl
  · cases p with
    | nil =>
      obtain rfl := Option.some.inj hx
      exact hroot
    | cons i p => exact (Stocked.label_put_cons ..).trans hroot
  · obtain ⟨P, hP, hfinal⟩ := (hψ _ y).1 hleft
    exact ⟨P, hP, hfinal.document, hfinal.stash, rfl, rfl⟩

/-- A value is injected into the element at a spot. -/
lemma injectElement (h : r.HoldsStocked d T) (hx : at? p T = some (x.labelled m))
    (hentered : Entered e.dialect x.bare.whole) {v : Value} (hv : v.isNull = false) :
    ∃ y : Element NodeId,
      y.bare = (Local.injectSubtree ⟨e, v⟩ e.maxDepth 0 [] v x.bare).state ∧
      (r.injectElement e d m v).result =
        ((Local.injectSubtree ⟨e, v⟩ e.maxDepth 0 [] v x.bare).result.map fun _ =>
          (Local.injectSubtree ⟨e, v⟩ e.maxDepth 0 [] v x.bare).notes).mapError Stop.fault ∧
      (r.injectElement e d m v).template.HoldsStocked (r.injectElement e d m v).document
        (put (y.labelled m) p T) := by
  have hrun : r.injectElement e d m v =
      r.run d (Setting.injectSubtree ⟨e, v⟩ e.maxDepth m v) := by
    simp only [Template.injectElement, hv, Bool.false_eq_true, if_false]
  rw [hrun]
  exact h.run hx fun hholds => injectSubtree_follows ⟨e, v⟩ e.maxDepth hentered hholds

end HoldsStocked

end Template

end TreeTemplate
