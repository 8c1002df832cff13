import TreeTemplate.Proofs.Local.Content
import TreeTemplate.Walk.Inject
import TreeTemplate.Walk.Reset

/-!
# Injecting and resetting as local actions

Injection and reset as actions on the element they begin at. A jump counts for nothing
here, so the actions are those of the walks where no element is left by a jump.
-/

namespace TreeTemplate

namespace Local

/-- The directives of an element. -/
def directives (dialect : Dialect) : Local (Element Unit) Directives := fun P =>
  check (Directives.ofAttrs dialect P.shell.describe P.head.attrs) P

/-- Stops because an element cannot be entered. -/
def refuseDepth (depth : Nat) : Local (Element Unit) Unit := fun P =>
  refuse (.tooDeep depth P.shell.describe) P

/-- Hides or shows an element. -/
def setHidden (hidden : Bool) : Local (Element Unit) Unit :=
  change (Element.edit (Tree.setHidden hidden))

/-- Sets the attributes of an element and decides whether it is shown. -/
def decorate (c : Setting) (ds : Directives) (scope : Value) : Local (Element Unit) Bool := do
  ds.attributes.forM fun (operator, operand) => execute c scope operand operator
  match ds.conditional? with
  | none => return true
  | some (operator, operand) =>
    match ← conditional c scope operand operator with
    | .shown => do
      setHidden false
      return true
    | .hidden => do
      setHidden true
      return false
    | .abandoned => return false

/-- The operator that fills a copy for an item or an entry which declares none. -/
def itemOperator (P : Element Unit) : ContentOperator :=
  if P.elements.isEmpty then .text else .object

/-- The operator that fills an element, if there is one. -/
def contentOperator (ds : Directives) (isItem : Bool) :
    Local (Element Unit) (Option (ContentOperator × String)) := fun P =>
  match ds.content? with
  | some content => ⟨.ok (some content), P, []⟩
  | none => ⟨.ok (if isItem then some (itemOperator P, ".") else none), P, []⟩

/-- The scope for the elements below, after the content of an element is filled. -/
def inner (c : Setting) (walk : List Nat → Value → Bool → Local (Element Unit) Unit)
    (positions : List Nat) (scope : Value) :
    Option (ContentOperator × String) → Local (Element Unit) (Option Value)
  | some (operator, operand) =>
    content c (fun inside value => walk inside value true) positions scope operand operator
  | none => pure (some scope)

/-- Walks the elements below an element if there is a scope for them. -/
def descend (walk : Value → Local (Element Unit) Unit) : Option Value → Local (Element Unit) Unit
  | some scope => below (walk scope)
  | none => pure ()

/-- Fills the content of an element, and walks the elements below it if there is a scope for
them. -/
def fill (c : Setting) (walk : List Nat → Value → Bool → Local (Element Unit) Unit)
    (positions : List Nat) (ds : Directives) (scope : Value) (isItem : Bool) :
    Local (Element Unit) Unit := do
  let content? ← contentOperator ds isItem
  let inner? ← inner c walk positions scope content?
  descend (fun scope => walk positions scope false) inner?

/-- Injects a scope into an element whose directives are known. -/
def injectDirectives (c : Setting) (walk : List Nat → Value → Bool → Local (Element Unit) Unit)
    (positions : List Nat) (ds : Directives) (scope : Value) (isItem : Bool) :
    Local (Element Unit) Unit :=
  if scope.isNull then fill c walk positions ds scope isItem
  else do
    if ← decorate c ds scope then fill c walk positions ds scope isItem
    else pure ()

/-- Injects a scope into an element and everything below it. -/
def inject (c : Setting) : Nat → Nat → List Nat → Value → Bool → Local (Element Unit) Unit
  | 0, depth, _, _, _ => refuseDepth depth
  | room + 1, depth, positions, scope, isItem => do
    let ds ← directives c.engine.dialect
    injectDirectives c (inject c room (depth + 1)) positions ds scope isItem

/-- Injects a value into an element by itself. -/
def injectSubtree (c : Setting) (room depth : Nat) (positions : List Nat) (scope : Value) :
    Local (Element Unit) Unit :=
  match room with
  | 0 => refuseDepth depth
  | room + 1 => do
    let ds ← directives c.engine.dialect
    let P ← look
    let ds ← check (ds.forSubtree P.shell.describe)
    injectDirectives c (inject c room (depth + 1)) positions ds scope false

/-- Shows an element that a condition may have hidden. -/
def unhide (ds : Directives) : Local (Element Unit) Unit :=
  if ds.conditional?.isSome then setHidden false else pure ()

/-- Removes what the operator that fills an element filled in. -/
def unfill (ds : Directives) : Local (Element Unit) Unit :=
  match ds.content? with
  | some (operator, operand) => inOperator (.content operator) operand (undoContent operator)
  | none => pure ()

/-- Brings an element whose directives are known back. -/
def resetDirectives (walk : Local (Element Unit) Unit) (ds : Directives) :
    Local (Element Unit) Unit := do
  ds.attributes.forM fun (operator, operand) =>
    inOperator (.attr operator) operand (undoAttribute operand operator)
  unhide ds
  unfill ds
  below walk

/-- Brings an element and everything below it back. -/
def reset (dialect : Dialect) : Nat → Nat → Local (Element Unit) Unit
  | 0, depth => refuseDepth depth
  | room + 1, depth => do
    let ds ← directives dialect
    resetDirectives (reset dialect room (depth + 1)) ds

/-! ## What goes on with the directives of an element -/

variable {dialect : Dialect} {P : Element Unit} {ds : Directives}

/-- The directives of an element, where they can be read. -/
lemma directives_eq_ok (h : (directives dialect P).result = .ok ds) :
    Directives.ofAttrs dialect P.shell.describe P.head.attrs = .ok ds ∧
      directives dialect P = ⟨.ok ds, P, []⟩ := by
  unfold directives at h ⊢
  cases hds : Directives.ofAttrs dialect P.shell.describe P.head.attrs with
  | error cause =>
    rw [hds] at h
    cases h
  | ok ds' =>
    rw [hds] at h
    cases h
    exact ⟨rfl, rfl⟩

/-- Directives that can be read are. -/
lemma directives_of_ok (h : Directives.ofAttrs dialect P.shell.describe P.head.attrs = .ok ds) :
    directives dialect P = ⟨.ok ds, P, []⟩ := by
  unfold directives
  rw [h]
  rfl

/-- Directives that cannot be read stop for what is wrong with them. -/
lemma directives_of_error {cause : Cause}
    (h : Directives.ofAttrs dialect P.shell.describe P.head.attrs = .error cause) :
    directives dialect P = ⟨.error ⟨cause, none⟩, P, []⟩ := by
  unfold directives
  rw [h]
  rfl

namespace Keeps

variable {R : Element Unit → Prop} {c : Setting} {scope : Value} {positions : List Nat}
  {walk : List Nat → Value → Bool → Local (Element Unit) Unit} {isItem : Bool}

/-- Reading directives keeps any property. -/
lemma directives (dialect : Dialect) : Keeps R (directives dialect) := fun P hP => check _ P hP

/-- What is done with the directives of an element has to keep a property only where they can be
read. -/
lemma directives_bind {f : Directives → Local (Element Unit) Unit}
    (h : ∀ P ds, R P → Directives.ofAttrs dialect P.shell.describe P.head.attrs = .ok ds →
      R (f ds P).state) : Keeps R (Local.directives dialect >>= f) := by
  refine bind_after (directives dialect) fun P ds hP hok => ?_
  obtain ⟨hds, hrun⟩ := directives_eq_ok hok
  rw [hrun]
  exact h P ds hP hds

/-- A scope is injected into an element by decorating and by filling it. -/
lemma injectDirectives (hdecorate : Keeps R (decorate c ds scope))
    (hfill : Keeps R (fill c walk positions ds scope isItem)) :
    Keeps R (injectDirectives c walk positions ds scope isItem) := by
  unfold Local.injectDirectives
  split
  · exact hfill
  · refine bind hdecorate fun goesOn => ?_
    split
    · exact hfill
    · exact pure ()

/-- Showing an element again keeps a property that showing it keeps. -/
lemma unhide (h : Keeps R (setHidden false)) : Keeps R (unhide ds) := by
  unfold Local.unhide
  split
  · exact h
  · exact pure ()

end Keeps

end Local

end TreeTemplate
