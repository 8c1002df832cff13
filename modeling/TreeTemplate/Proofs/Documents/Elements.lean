import TreeTemplate.Proofs.Follow.Template
import TreeTemplate.Proofs.Injection.TemplatesIntact

/-!
# Documents that were read

What holds of every element of a document that was just read holds of the element that the document
presents. A document without jumps that can get none stays one that walks can enter, whatever is
injected into it.

Main statements:

* `exists_ok_of_check`, `Tree.decEq` — what was read can be checked, and compared;
* `Template.Presents.all_of_parse` — what holds of every element;
* `Template.Presents.inject_templatesIntact`, `Template.Presents.reset_templatesIntact` — documents
  that stay in order.
-/

namespace TreeTemplate

variable {t : Template} {d : Document} {P : Element Unit} {e : Engine}

/-! ## Checking what was read -/

/-- What an evaluation answers, if a check of the answer succeeds. -/
lemma exists_ok_of_check {ε α : Type} {p : α → Prop} [DecidablePred p] (x : Except ε α)
    (h : (match x with | .ok a => decide (p a) | .error _ => false) = true) :
    ∃ a, x = .ok a ∧ p a := by
  cases x with
  | ok a => exact ⟨a, rfl, of_decide_eq_true h⟩
  | error _ => cases h

namespace Tree

variable {ι : Type} [DecidableEq ι]

mutual

/-- Whether two trees are the same. -/
def decEq : (t u : Tree ι) → Decidable (t = u)
  | element label tag attrs hidden ts, element label' tag' attrs' hidden' us =>
    match decEqAll ts us with
    | .isTrue h =>
      decidable_of_iff (label = label' ∧ tag = tag' ∧ attrs = attrs' ∧ hidden = hidden')
        (by simp [h])
    | .isFalse h => .isFalse (by simp [h])
  | text label content, text label' content' =>
    decidable_of_iff (label = label' ∧ content = content') (by simp)
  | element _ _ _ _ _, text _ _ => .isFalse nofun
  | text _ _, element _ _ _ _ _ => .isFalse nofun

/-- Whether trees side by side are the same. -/
def decEqAll : (ts us : List (Tree ι)) → Decidable (ts = us)
  | [], [] => .isTrue rfl
  | t :: ts, u :: us =>
    match decEq t u, decEqAll ts us with
    | .isTrue h, .isTrue hs => .isTrue (by rw [h, hs])
    | .isFalse h, _ => .isFalse (by simp [h])
    | _, .isFalse hs => .isFalse (by simp [hs])
  | [], _ :: _ => .isFalse nofun
  | _ :: _, [] => .isFalse nofun

end

instance : DecidableEq (Tree ι) := decEq

end Tree

/-! ## What holds of every element -/

/-- The head of an element of one of several trees is one of their heads. -/
lemma Tree.mem_heads {ts : List (Tree Unit)} {u : Tree Unit} (hu : u ∈ ts) {head : Head}
    (h : head ∈ heads [u]) : head ∈ heads ts := by
  simp only [heads, nodesOf_eq_flatMap, List.flatMap_cons, List.flatMap_nil,
    List.append_nil] at h ⊢
  obtain ⟨node, hnode, rfl⟩ := List.mem_map.1 h
  obtain ⟨hmem, helement⟩ := List.mem_filter.1 hnode
  exact List.mem_map_of_mem (List.mem_filter.2 ⟨List.mem_flatMap.2 ⟨u, hu, hmem⟩, helement⟩)

/-- What holds of all heads of a tree holds of all its elements. -/
lemma Stocked.all_of_heads {p : Head → Prop} (u : Tree Unit)
    (h : ∀ head ∈ Tree.heads [u], p head) : (ofTree u).All fun P => p P.head := by
  induction u using Tree.induct with
  | text label content => trivial
  | element label tag attrs hidden children ih =>
    have hheads : Tree.heads [Tree.element label tag attrs hidden children] =
        ⟨tag, attrs, hidden⟩ :: Tree.heads children := by
      simp only [Tree.heads, Tree.nodesOf, Tree.nodes, List.append_nil]
      rfl
    rw [hheads] at h
    rw [ofTree_element]
    refine all_element.2 ⟨h _ List.mem_cons_self, by simp, ?_⟩
    intro t ht
    obtain ⟨child, hchild, rfl⟩ := List.mem_map.1 ht
    exact ih child hchild fun head hhead =>
      h head (List.mem_cons_of_mem _ (Tree.mem_heads hchild hhead))

/-- The element that a document that was read presents is that of a tree. -/
lemma Element.whole_ofTrees (trees : List (Tree Unit)) : (Element.ofTrees trees).whole =
    Stocked.ofTree (.element () "#document" [] false trees) :=
  Stocked.ofTree_element.symm

/-- A tree in order can be entered. -/
lemma Stocked.TemplatesIntact.entered {dialect : Dialect} {t : Stocked Unit}
    (h : t.TemplatesIntact dialect) :
    Entered dialect t :=
  ⟨h.fit_tidy.1, h.fit_tidy.2, h.unjumped⟩

namespace Template.Presents

/-- What holds of every element of a document that was just read, and of an element without
attributes, holds of every element at and below the one that it presents. -/
lemma all_of_parse {markup : String} (h : Document.parse markup = .ok d) {p : Head → Prop}
    (hroot : p ⟨"#document", [], false⟩) (hp : ∀ t ∈ d.elements, p t.head) :
    ∃ trees, (Template.ofRoot Document.root).Presents d (Element.ofTrees trees) ∧
      (Element.ofTrees trees).whole.All fun P => p P.head := by
  obtain ⟨trees, -, hpresents⟩ := of_parse h
  refine ⟨trees, hpresents, Stocked.all_element.2 ⟨hroot, by simp [Element.ofTrees], ?_⟩⟩
  have hheads : ∀ head ∈ Tree.heads trees, p head := by
    intro head hhead
    have hall := hpresents.heads
    simp only [Element.ofTrees, List.map_map, Function.comp_def, Stocked.tree_ofTree,
      List.map_id'] at hall
    rw [← hall] at hhead
    obtain ⟨t, ht, rfl⟩ := List.mem_map.1 hhead
    exact hp t ht
  intro t ht
  obtain ⟨u, hu, rfl⟩ := List.mem_map.1 ht
  exact Stocked.all_of_heads u fun head hhead => hheads head (Tree.mem_heads hu hhead)

/-- A document that was read without jumps, and in which no clause makes one, is in order. -/
lemma templatesIntact_of_parse {markup : String} (h : Document.parse markup = .ok d)
    {p : Head → Prop}
    (hjump : ∀ t ∈ d.elements, t.head.JumpFree e.dialect)
    (hunmarked : ∀ t ∈ d.elements, t.head.Unmarked e.dialect)
    (hroot : p ⟨"#document", [], false⟩) (hp : ∀ t ∈ d.elements, p t.head) :
    ∃ trees, (Template.ofRoot Document.root).Presents d (Element.ofTrees trees) ∧
      (Element.ofTrees trees).whole.TemplatesIntact e.dialect ∧
      (Element.ofTrees trees).whole.All fun P => p P.head := by
  obtain ⟨trees, hpresents, hall⟩ := all_of_parse h
    (p := fun head => (head.JumpFree e.dialect ∧ head.Unmarked e.dialect) ∧ p head)
    ⟨⟨by simp [Head.JumpFree], by simp [Head.Unmarked, Head.setters]⟩, hroot⟩
    fun t ht => ⟨⟨hjump t ht, hunmarked t ht⟩, hp t ht⟩
  refine ⟨trees, hpresents, ?_, Stocked.AllBut.mono (fun _ hP => hP.2) hall⟩
  rw [Element.whole_ofTrees] at hall ⊢
  exact Stocked.templatesIntact_ofTree (Stocked.AllBut.mono (fun _ hP => hP.1) hall)

/-- Injection follows the local action for it, and leaves a document in order. -/
lemma inject_templatesIntact (h : t.Presents d P) (hP : P.whole.TemplatesIntact e.dialect)
    {m : Value}
    (hm : m.isNull = false) :
    (t.inject e d m).result =
        ((Local.inject ⟨e, m⟩ e.maxDepth 0 [] m false P).result.map fun _ =>
          (Local.inject ⟨e, m⟩ e.maxDepth 0 [] m false P).notes).mapError Stop.fault ∧
      (t.inject e d m).template.Presents (t.inject e d m).document
        (Local.inject ⟨e, m⟩ e.maxDepth 0 [] m false P).state ∧
      (Local.inject ⟨e, m⟩ e.maxDepth 0 [] m false P).state.whole.TemplatesIntact e.dialect := by
  obtain ⟨hresult, hpresents⟩ := h.inject hm hP.entered
  exact ⟨hresult, hpresents, Local.keeps_templatesIntact_inject (c := ⟨e, m⟩) e.maxDepth 0 [] m
    false P hP⟩

/-- Reset follows the local action for it, and leaves a document in order. -/
lemma reset_templatesIntact (h : t.Presents d P) (hP : P.whole.TemplatesIntact e.dialect) :
    (t.reset e d).result = ((Local.reset e.dialect e.maxDepth 0 P).result.map fun _ =>
        (Local.reset e.dialect e.maxDepth 0 P).notes).mapError Stop.fault ∧
      (t.reset e d).template.Presents (t.reset e d).document
        (Local.reset e.dialect e.maxDepth 0 P).state ∧
      (Local.reset e.dialect e.maxDepth 0 P).state.whole.TemplatesIntact e.dialect := by
  obtain ⟨hresult, hpresents⟩ := h.reset hP.entered
  exact ⟨hresult, hpresents, Local.keeps_templatesIntact_reset e.maxDepth 0 P hP⟩

end Template.Presents

end TreeTemplate
