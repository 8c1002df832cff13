import TreeTemplate.Proofs.Anchored.Walks
import TreeTemplate.Proofs.Documents.Calls

/-!
# Documents in which templates are tops of trees

A template that is bound to an element of a document that was just read has nothing stashed. From
then on what it stashes are tops of trees beside the tree of the document node, whatever calls there
are, wherever jumps lead them, and whether they succeed.

Main statements:

* `Template.anchored_of_parse` — a document that was just read;
* `Template.Anchored.afterCalls` — what calls one after another leave.
-/

namespace TreeTemplate

variable {t : Template} {d : Document} {e : Engine}

/-- What becomes of a template and its document by a call: nothing, or what a walk does. -/
lemma Call.run_cases (call : Call) :
    (∃ result, call.run e t d = t.unchanged d result) ∨
      ∃ walk, call.run e t d = t.run d walk ∧
        ∀ {Q : (α : Type) → Walk α → Prop}, Walk.HoldsWalks Q → Q Unit walk := by
  cases call with
  | inject model =>
    simp only [run, Template.inject]
    split
    · exact .inl ⟨_, rfl⟩
    · exact .inr ⟨_, rfl, fun hQ => hQ.inject _ _ _ _ _⟩
  | reset => exact .inr ⟨_, rfl, fun hQ => hQ.reset _ _ _⟩
  | injectElement n value =>
    simp only [run, Template.injectElement]
    split
    · exact .inr ⟨_, rfl, fun hQ => hQ.reset _ _ _⟩
    · exact .inr ⟨_, rfl, fun hQ => hQ.injectSubtree _ _ _ _⟩
  | resetElement n => exact .inr ⟨_, rfl, fun hQ => hQ.reset _ _ _⟩

namespace Template

/-- The document node and what a template stashes are tops of different trees of the document. -/
def Anchored (t : Template) (d : Document) : Prop :=
  Walk.Anchored [Document.root] { document := d, stash := t.stash }

/-- In a document that was just read the document node is the top of its tree. -/
lemma anchored_of_parse {markup : String} (h : Document.parse markup = .ok d) (n : NodeId) :
    (ofRoot n).Anchored d := by
  obtain ⟨trees, -, rfl⟩ := Document.parse_eq_ok.1 h
  let source : Tree (Option Unit) :=
    .element none "#document" [] false (trees.map (·.relabel some))
  have htrees : (Document.ofTrees trees).trees = [(Supply.plant {} source).1] := rfl
  refine ⟨_, ⟨.refl _, ?_⟩, List.nodup_nil, fun m => ?_⟩
  · rw [htrees]
    exact (Supply.Sound.plant .empty source).perm (by simp)
  · rw [htrees, Stash.templates]
    exact Nat.le_refl _

/-- A call leaves templates at the tops of trees. -/
lemma Anchored.call (h : t.Anchored d) (call : Call) :
    (call.run e t d).template.Anchored (call.run e t d).document := by
  rcases call.run_cases (e := e) (t := t) (d := d) with ⟨result, e⟩ | ⟨walk, e, hwalk⟩
  · rw [e]
    exact h
  · rw [e]
    obtain ⟨ts, hts⟩ := hwalk Walk.holdsWalks_anchored _ h
    exact ⟨ts, hts.congr rfl rfl⟩

/-- Calls one after another leave templates at the tops of trees. -/
lemma Anchored.afterCalls (h : t.Anchored d) (calls : List Call) :
    (t.afterCalls e d calls).1.Anchored (t.afterCalls e d calls).2 := by
  induction calls generalizing t d with
  | nil => exact h
  | cons call calls ih => exact ih (h.call call)

end Template

end TreeTemplate
