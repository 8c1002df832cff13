import TreeTemplate.Proofs.Surroundings.Mindful

/-!
# Injections that find every node

A walk that looks up a node that is gone cannot go on. In a document that was just read this only
happens to an injection that is not mindful: an element is cleared while the walk is to come back to
nodes below it, which a jump back can bring about.

Main statements:

* `inject_found` — mindful injections, and documents without jumps.
-/

namespace TreeTemplate

variable {markup : String} {d : Document} {t : Template} {e : Engine} {model : Value}

namespace Document

/-- A document that was read has one tree, with the document node at its top. -/
lemma exists_trunk_of_parse (h : Document.parse markup = .ok d) :
    ∃ m children, d.trees = [.element m "#document" [] false children] := by
  obtain ⟨trees, -, rfl⟩ := Document.parse_eq_ok.1 h
  exact ⟨_, _, rfl⟩

end Document

namespace Template

/-- A walk can begin at the document node. -/
lemma Anchored.canEnter (h : t.Anchored d) :
    Walk.CanEnter {} Document.root { document := d, stash := t.stash } := by
  obtain ⟨trunk, rest, htrunk, hroot, helement⟩ := Walk.Anchored.exists_trunk h
  refine ⟨h, (htrunk.attached_iff (C := .top) hroot).2 ?_, nofun, nofun⟩
  exact ⟨trunk, Tree.self_mem_nodes trunk, hroot, helement⟩

/-- Where no element declares a jump, the document node of a document that was read stands in
surroundings without any. -/
lemma open_of_parse (h : Document.parse markup = .ok d)
    (hjump : ∀ t ∈ d.elements, t.head.JumpFree e.dialect) :
    Walk.Open ⟨e.dialect, Document.root, .top, Document.root, [], nofun⟩ { document := d } := by
  obtain ⟨ts, hts⟩ := anchored_of_parse h Document.root
  obtain ⟨m, children, htrees⟩ := Document.exists_trunk_of_parse h
  obtain rfl : ts = [.element m "#document" [] false children] :=
    List.perm_singleton.1 (htrees ▸ hts.document.trees.symm)
  obtain ⟨trunk, rest, hp, hroot, -⟩ := hts.exists_top (.inl List.mem_cons_self)
  obtain ⟨rfl, rfl⟩ := List.cons_eq_cons.1 (List.perm_singleton.1 hp.symm)
  refine ⟨_, ⟨⟨[], hts, nofun⟩, hroot, hroot, rfl, nofun⟩, fun u hu => ?_⟩
  rcases List.mem_cons.1 hu with rfl | hbelow
  · simp [Head.JumpFree, Tree.head, Tree.attrs]
  cases u with
  | text label content => exact Tree.jumpFree_text label content _ (Tree.self_mem_nodes _)
  | element label tag attrs hidden children =>
    refine hjump _ (List.mem_filter.2 ⟨?_, rfl⟩)
    rw [hts.document.attached_eq (C := .top) hroot]
    exact hbelow

end Template

/-- A walk that is run for a template stops where it stops by itself. -/
lemma Template.result_run_eq_error {walk : Walk Unit} {stop : Stop}
    (h : (t.run d walk).result = .error stop) :
    (walk { document := d, stash := t.stash }).1 = .error stop := by
  have hresult : (t.run d walk).result = (walk { document := d, stash := t.stash }).1.map fun _ =>
    (walk { document := d, stash := t.stash }).2.diagnostics := rfl
  rw [hresult] at h
  cases hleft : (walk { document := d, stash := t.stash }).1 with
  | ok _ =>
    rw [hleft] at h
    cases h
  | error found =>
    rw [hleft] at h
    cases h
    rfl

/-- An injection into a document that was just read does not look up a node that is gone, if it is
mindful: if no element is cleared above a node that the walk has put off before it jumped. In a
document without jumps every injection is mindful, with any model, any limit of the depth and any
formatters. -/
theorem inject_found (h : Document.parse markup = .ok d) (e : Engine) (model : Value) :
    ((Template.ofRoot Document.root).mindful e d model = true →
      ∀ n, ((Template.ofRoot Document.root).inject e d model).result ≠ .error (.missing n)) ∧
    ((∀ t ∈ d.elements, t.head.JumpFree e.dialect) →
      (Template.ofRoot Document.root).mindful e d model = true) := by
  refine ⟨fun hmindful n => ?_, fun hjump => Bool.or_eq_true_iff.2 (.inr ?_)⟩
  · unfold Template.inject
    cases hmodel : model.isNull with
    | true => exact nofun
    | false =>
      rw [Template.mindful, hmodel] at hmindful
      intro hresult
      exact (Walk.sound_inject ⟨e, model⟩ e.maxDepth {} Document.root model false _
        (Template.anchored_of_parse h Document.root).canEnter hmindful).found n
        (Template.result_run_eq_error hresult)
  · exact Walk.undisturbed_inject ⟨e, model⟩ e.maxDepth _ rfl {} model false _ rfl
      (Template.open_of_parse h hjump)

set_option maxRecDepth 2000 in
/-- The items of a list jump back to the list, which is filled again in the scope of each of them. A
list in a list is filled without jumps. -/
theorem inject_found_again :
    (∃ d, Document.parse "<ul id=\"x\" data-list=\"xs\"><li data-goto=\"x\"/></ul>" = .ok d ∧
      let model := Value.map [("xs", .list [.map [("xs", .list [])], .map [("xs", .list [])]])]
      (Template.ofRoot Document.root).mindful {} d model = true ∧
      ∀ n, ((Template.ofRoot Document.root).inject {} d model).result ≠ .error (.missing n)) ∧
    ∃ d, Document.parse "<ul data-list=\".\"><li data-list=\".\"><b/></li></ul>" = .ok d ∧
      (∀ t ∈ d.elements, t.head.JumpFree Dialect.standard) ∧
      (Template.ofRoot Document.root).mindful {} d (.list [.list [.string "a"]]) = true := by
  constructor
  · let model := Value.map [("xs", .list [.map [("xs", .list [])], .map [("xs", .list [])]])]
    obtain ⟨d, hparse, hmindful⟩ := exists_ok_of_check
      (Document.parse "<ul id=\"x\" data-list=\"xs\"><li data-goto=\"x\"/></ul>")
      (p := fun d => (Template.ofRoot Document.root).mindful {} d model = true) (by decide +kernel)
    exact ⟨d, hparse, hmindful, (inject_found hparse {} model).1 hmindful⟩
  · obtain ⟨d, hparse, hjump⟩ := exists_ok_of_check
      (Document.parse "<ul data-list=\".\"><li data-list=\".\"><b/></li></ul>")
      (p := fun d => ∀ t ∈ d.elements, t.head.JumpFree Dialect.standard) (by decide +kernel)
    exact ⟨d, hparse, hjump, (inject_found hparse {} _).2 hjump⟩

set_option maxRecDepth 2000 in
/-- An injection that is not mindful can look up a node that is gone. The item of a list has two
elements, of which the first jumps back to the list. This is cleared, and the walk comes back to the
second one. -/
theorem inject_found_gone : ∃ d,
    Document.parse "<ul id=\"x\" data-list=\"items\"><li><b data-goto=\"x\"/><i/></li></ul>" =
      .ok d ∧
    let model := Value.map [("items", .list [.map [("items", .list [])]])]
    ((Template.ofRoot Document.root).inject {} d model).result = .error (.missing ⟨7⟩) :=
  exists_ok_of_check
    (Document.parse "<ul id=\"x\" data-list=\"items\"><li><b data-goto=\"x\"/><i/></li></ul>")
    (by decide +kernel)

end TreeTemplate
