import TreeTemplate.Proofs.Local.Attributes
import TreeTemplate.Walk.Content

/-!
# Content as local actions

The operators that fill an element, as actions on it. A list or a map keeps its templates in
its stock, and it is filled with copies of them that have no stock of their own.

Main statements:

* `sweep_cons_of_ok`, `sweep_cons_of_error` — nodes side by side are walked one after another;
* `Keeps.runText`, `Keeps.runOptions` — what an operator keeps if its changes do.
-/

namespace TreeTemplate

namespace Element

variable {ι : Type}

/-- The elements directly below an element. -/
def elements (P : Element ι) : List (Stocked ι) :=
  P.children.filter Stocked.isElement

/-- Puts nodes behind those below an element. -/
def append (ts : List (Stocked ι)) (P : Element ι) : Element ι :=
  P.fill (P.children ++ ts)

/-- Takes templates out of an element, whose other children are given. -/
def stockUp (templates others : List (Stocked ι)) (P : Element ι) : Element ι :=
  ⟨P.head, templates, others⟩

end Element

namespace Local

/-! ## Walking below an element -/

/-- An action on an element of a tree; texts are left alone. -/
def onElement (act : Local (Element Unit) Unit) : Local (Stocked Unit) Unit
  | .element _ head stock children =>
    let left := act ⟨head, stock, children⟩
    ⟨left.result, left.state.whole, left.notes⟩
  | .text label content => ⟨.ok (), .text label content, []⟩

/-- Runs an action on each of the given nodes until one stops. -/
def sweep : List (Stocked Unit × Local (Element Unit) Unit) → Yield (List (Stocked Unit)) Unit
  | [] => ⟨.ok (), [], []⟩
  | (t, act) :: later =>
    let left := onElement act t
    match left.result with
    | .error e => ⟨.error e, left.state :: later.map Prod.fst, left.notes⟩
    | .ok _ =>
      let rest := sweep later
      ⟨rest.result, left.state :: rest.state, left.notes ++ rest.notes⟩

/-- An action on the nodes below an element. -/
def onChildren (act : Local (List (Stocked Unit)) Unit) : Local (Element Unit) Unit := fun P =>
  let left := act P.children
  ⟨left.result, P.fill left.state, left.notes⟩

/-- Runs an action on each of the elements below an element until one stops. -/
def below (act : Local (Element Unit) Unit) : Local (Element Unit) Unit :=
  onChildren fun ts => sweep (ts.map fun t => (t, act))

/-- Puts copies of templates behind other nodes, and walks them in order. -/
def place (copies : List (Stocked Unit × Local (Element Unit) Unit)) :
    Local (List (Stocked Unit)) Unit := fun ts =>
  let left := sweep (copies.map fun copy => (copy.1.copy, copy.2))
  ⟨left.result, ts ++ left.state, left.notes⟩

/-- Places copies for one item after another, the first of which has the given position. The copies
for an item are walked at its position if the list or the map is ordered. -/
def expand (positions : List Nat) (ordered : Bool)
    (walk : List Nat → Value → Local (Element Unit) Unit) :
    Nat → List (List (Stocked Unit × Value)) → Local (List (Stocked Unit)) Unit
  | _, [] => pure ()
  | i, copies :: later => do
    let inside := if ordered then i :: positions else positions
    place (copies.map fun copy => (copy.1, walk inside copy.2))
    expand positions ordered walk (i + 1) later

/-! ## Templates -/

/-- The template of the items of a list. -/
def itemTemplate : Local (Element Unit) (Stocked Unit) := fun P =>
  match P.stock with
  | [template] => ⟨.ok template, P, []⟩
  | _ :: _ => refuse .holdsEntryTemplates P
  | [] =>
    match P.elements with
    | template :: _ =>
      ⟨.ok template, P.stockUp [template] (P.children.eraseP Stocked.isElement), []⟩
    | [] => refuse (.missingItem P.shell.describe) P

/-- The templates of the keys and the values of a map. -/
def entryTemplates : Local (Element Unit) (Stocked Unit × Stocked Unit) := fun P =>
  match P.stock with
  | [_] => refuse .holdsItemTemplate P
  | key :: value :: _ => ⟨.ok (key, value), P, []⟩
  | [] =>
    match P.elements with
    | key :: value :: _ =>
      ⟨.ok (key, value), P.stockUp [key, value]
        ((P.children.eraseP Stocked.isElement).eraseP Stocked.isElement), []⟩
    | [_] => refuse (.missingValue P.shell.describe) P
    | [] => refuse (.missingKey P.shell.describe) P

/-! ## Operators -/

/-- Removes everything below an element. -/
def clear : Local (Element Unit) Unit :=
  change (Element.fill [])

/-- Removes the texts directly below an element. -/
def removeText : Local (Element Unit) Unit :=
  change Element.removeText

/-- Puts a text in the place of everything below an element. -/
def fillText (content : String) : Local (Element Unit) Unit :=
  change (Element.fill [.text () content])

/-- Fills an element without elements below it with text. -/
def runText (c : Setting) (scope : Value) (operand : String) : Local (Element Unit) Unit := do
  if scope.isNull then removeText
  else
    let P ← look
    if !P.elements.isEmpty then refuse (.textAroundElements P.shell.describe)
    else
      match ← check (Path.read c.model scope operand) with
      | .null => removeText
      | .string "" => removeText
      | value => do
        let shown ← check (c.display P.shell value)
        fillText shown

/-- Fills an element with markup. -/
def fillMarkup (markup : String) : Local (Element Unit) Unit :=
  match (Markup.read markup).fault? with
  | none => change (Element.fill ((Markup.read markup).trees.map Stocked.ofTree))
  | some fault => do
    clear
    refuse (.markup fault)

/-- Fills an element with the markup that a string holds. -/
def runHtml (c : Setting) (scope : Value) (operand : String) : Local (Element Unit) Unit := do
  if scope.isNull then clear
  else
    match ← check (Path.read c.model scope operand) with
    | .null => clear
    | .string markup => fillMarkup markup
    | value => refuse (.htmlKind value.kind)

/-- The scope that an operand opens for the elements below. -/
def runObject (c : Setting) (scope : Value) (operand : String) : Local (Element Unit) Value := do
  if scope.isNull then return .null
  else
    let value ← check (Path.read c.model scope operand)
    if value.isNull || operand = "." || value.isComposite then return value
    else refuse (.expectedComposite operand value.kind)

/-- Fills an element with a copy of its template for each item of a list. -/
def runList (c : Setting) (walk : List Nat → Value → Local (Element Unit) Unit)
    (positions : List Nat) (scope : Value) (operand : String) (ordered : Bool) :
    Local (Element Unit) Unit := do
  let template ← itemTemplate
  clear
  if scope.isNull then pure ()
  else
    let items ← check (Path.readItems c.model scope operand)
    onChildren (expand positions ordered walk 1 (items.map fun item => [(template, item)]))

/-- Fills an element with copies of its two templates for each entry of a map. -/
def runMap (c : Setting) (walk : List Nat → Value → Local (Element Unit) Unit)
    (positions : List Nat) (scope : Value) (operand : String) (ordered : Bool) :
    Local (Element Unit) Unit := do
  let (key, value) ← entryTemplates
  clear
  if scope.isNull then pure ()
  else
    let entries ← check (Path.readEntries c.model scope operand)
    onChildren (expand positions ordered walk 1
      (entries.map fun entry => [(key, .string entry.1), (value, entry.2)]))

/-- Fills an element with the label of the position that the walk has reached. -/
def runNumbering (positions : List Nat) (operand : String) : Local (Element Unit) Unit := do
  let format ← checkOperand (Numbering.parse operand)
  let label ← check (format.label positions)
  fillText label

/-- Puts an option behind those of an element. -/
def appendOption (item : Value) : Local (Element Unit) Unit :=
  match item.text? with
  | none => refuse (.optionKind item.kind)
  | some shown =>
    change (Element.append [.element () ⟨"option", [("value", shown)], false⟩ [] [.text () shown]])

/-- Fills a selection with an option for each item of a list. -/
def runOptions (c : Setting) (scope : Value) (operand : String) : Local (Element Unit) Unit := do
  let P ← look
  if !P.shell.hasTag ["select"] then refuse (.unsupported (.content .options) P.shell.describe)
  else if scope.isNull then clear
  else
    match ← check (Path.read c.model scope operand) with
    | .null => clear
    | .list items => do
      clear
      items.forM appendOption
    | value => refuse (.optionsKind value.kind)

/-- Fills an element. -/
def run (c : Setting) (walk : List Nat → Value → Local (Element Unit) Unit) (positions : List Nat)
    (scope : Value) (operand : String) : ContentOperator → Local (Element Unit) (Option Value)
  | .text => do
    runText c scope operand
    return none
  | .html => do
    runHtml c scope operand
    return none
  | .object => do
    let inner ← runObject c scope operand
    return some inner
  | .list ordered => do
    runList c walk positions scope operand ordered
    return none
  | .map ordered => do
    runMap c walk positions scope operand ordered
    return none
  | .numbering => do
    runNumbering positions operand
    return none
  | .options => do
    runOptions c scope operand
    return none

/-- Removes what an operator fills in. -/
def undoContent : ContentOperator → Local (Element Unit) Unit
  | .text | .numbering => removeText
  | .html | .options => clear
  | .object => pure ()
  | .list _ => do
    let _ ← itemTemplate
    clear
  | .map _ => do
    let _ ← entryTemplates
    clear

/-- Runs an operator that fills an element under the policy for faults. -/
def content (c : Setting) (walk : List Nat → Value → Local (Element Unit) Unit)
    (positions : List Nat) (scope : Value) (operand : String) (operator : ContentOperator) :
    Local (Element Unit) (Option Value) :=
  guarded (.content operator) operand (undoContent operator) operator.fallback none
    (run c walk positions scope operand operator)

/-! ## Walking nodes side by side -/

variable {act : Local (Element Unit) Unit} {t u : Stocked Unit} {notes : List Fault}
  {later : List (Stocked Unit × Local (Element Unit) Unit)}

/-- When the first of several nodes is done, the others are. -/
lemma sweep_cons_of_ok (h : onElement act t = ⟨.ok (), u, notes⟩) :
    sweep ((t, act) :: later) =
      ⟨(sweep later).result, u :: (sweep later).state, notes ++ (sweep later).notes⟩ := by
  simp only [sweep, h]

/-- When the first of several nodes stops, the others stay as they are. -/
lemma sweep_cons_of_error {e : Fault} (h : onElement act t = ⟨.error e, u, notes⟩) :
    sweep ((t, act) :: later) = ⟨.error e, u :: later.map Prod.fst, notes⟩ := by
  simp only [sweep, h]

/-- A property of nodes that walks keep holds of nodes that are walked. -/
lemma forall_sweep {p : Stocked Unit → Prop} {xs : List (Stocked Unit × Local (Element Unit) Unit)}
    (h : ∀ x ∈ xs, p x.1 ∧ Keeps (fun P => p P.whole) x.2) : ∀ u ∈ (sweep xs).state, p u := by
  induction xs with
  | nil => simp [sweep]
  | cons x xs ih =>
    obtain ⟨t, act⟩ := x
    obtain ⟨ht, hact⟩ := h _ List.mem_cons_self
    have hlater : ∀ x ∈ xs, p x.1 ∧ Keeps (fun P => p P.whole) x.2 :=
      fun x hx => h x (List.mem_cons_of_mem _ hx)
    have hfirst : p (onElement act t).state := by
      cases t with
      | element label head stock children => exact hact ⟨head, stock, children⟩ ht
      | text => exact ht
    rcases e : onElement act t with ⟨f | _, u, notes⟩
    · rw [sweep_cons_of_error e]
      rw [e] at hfirst
      exact List.forall_mem_cons.2 ⟨hfirst, List.forall_mem_map.2 fun x hx => (hlater x hx).1⟩
    · rw [sweep_cons_of_ok e]
      rw [e] at hfirst
      exact List.forall_mem_cons.2 ⟨hfirst, ih hlater⟩

/-- A property of nodes that walks keep holds of the copies that are placed. -/
lemma forall_expand {p : Stocked Unit → Prop} {positions : List Nat} {ordered : Bool}
    {walk : List Nat → Value → Local (Element Unit) Unit}
    (hwalk : ∀ inside value, Keeps (fun P => p P.whole) (walk inside value))
    {items : List (List (Stocked Unit × Value))}
    (hitems : ∀ copies ∈ items, ∀ copy ∈ copies, p copy.1.copy) (i : Nat) :
    Keeps (fun ts => ∀ t ∈ ts, p t) (expand positions ordered walk i items) := by
  induction items generalizing i with
  | nil => exact Keeps.pure _
  | cons copies later ih =>
    refine Keeps.bind (fun ts hts => ?_) fun _ =>
      ih (fun copies hc => hitems copies (List.mem_cons_of_mem _ hc)) _
    refine List.forall_mem_append.2 ⟨hts, forall_sweep ?_⟩
    intro x hx
    obtain ⟨y, hy, rfl⟩ := List.mem_map.1 hx
    obtain ⟨copy, hcopy, rfl⟩ := List.mem_map.1 hy
    exact ⟨hitems copies List.mem_cons_self copy hcopy, hwalk _ _⟩

/-! ## What an operator keeps -/

namespace Keeps

variable {R : Element Unit → Prop} {c : Setting} {scope : Value} {operand : String}

/-- Filling in a text keeps a property that removing texts and putting one keep. -/
lemma runText (hremove : Keeps R Local.removeText)
    (hfill : ∀ content, Keeps R (Local.fillText content)) :
    Keeps R (Local.runText c scope operand) := by
  unfold Local.runText
  split
  · exact hremove
  · refine bind look fun P => ?_
    split
    · exact refuse _
    · refine bind (check _) fun value => ?_
      split
      · exact hremove
      · exact hremove
      · exact bind (check _) fun shown => hfill shown

/-- Filling in markup keeps a property that clearing keeps and putting trees does. -/
lemma fillMarkup (hclear : Keeps R Local.clear)
    (hfill : ∀ (P : Element Unit) (trees : List (Tree Unit)), R P →
      R (P.fill (trees.map Stocked.ofTree))) (markup : String) :
    Keeps R (Local.fillMarkup markup) := by
  unfold Local.fillMarkup
  split
  · exact change fun P hP => hfill P _ hP
  · exact bind hclear fun _ => refuse _

/-- Filling in markup that is read from the model keeps a property that clearing and putting trees
keep. -/
lemma runHtml (hclear : Keeps R Local.clear)
    (hfill : ∀ (P : Element Unit) (trees : List (Tree Unit)), R P →
      R (P.fill (trees.map Stocked.ofTree))) : Keeps R (Local.runHtml c scope operand) := by
  unfold Local.runHtml
  split
  · exact hclear
  · refine bind (check _) fun value => ?_
    split
    · exact hclear
    · exact fillMarkup hclear hfill _
    · exact refuse _

/-- Opening a scope keeps any property. -/
lemma runObject : Keeps R (Local.runObject c scope operand) := by
  unfold Local.runObject
  split
  · exact pure _
  · refine bind (check _) fun value => ?_
    split
    · exact pure _
    · exact refuse _

/-- Filling in a label keeps a property that putting a text keeps. -/
lemma runNumbering {positions : List Nat} (hfill : ∀ content, Keeps R (Local.fillText content)) :
    Keeps R (Local.runNumbering positions operand) :=
  bind (checkOperand _) fun _ => bind (check _) fun label => hfill label

/-- Filling in options keeps a property that clearing and appending one keep. -/
lemma runOptions (hclear : Keeps R Local.clear) (hoption : ∀ item, Keeps R (appendOption item)) :
    Keeps R (Local.runOptions c scope operand) := by
  unfold Local.runOptions
  refine bind look fun P => ?_
  split
  · exact refuse _
  · split
    · exact hclear
    · refine bind (check _) fun value => ?_
      split
      · exact hclear
      · exact bind hclear fun _ => forM fun item _ => hoption item
      · exact refuse _

end Keeps

/-! ## What is left to be walked -/

variable {positions : List Nat} {operator : Operator} {operand : String} {c : Setting}
  {scope : Value}

/-- An action gives the one answer that it can under the policy for faults too, if undoing gives it
as well. -/
lemma guarded_ok {α : Type} {undo : Local (Element Unit) Unit} {a b : α}
    {run : Local (Element Unit) α}
    {P : Element Unit} (hrun : ∀ {a}, (run P).result = .ok a → a = b)
    (h : (guarded operator operand undo b b run P).result = .ok a) : a = b := by
  rcases guarded_eq_ok h with ha | ha | ha
  · exact hrun ha
  · exact ha
  · exact ha

/-- The answer is the one that is given last. -/
lemma bind_pure_ok {α β : Type} {x : Local (Element Unit) α} {a b : β} {P : Element Unit}
    (h : ((x >>= fun _ => pure b) P).result = .ok a) : a = b := by
  obtain ⟨_, _, h, _, _⟩ := bind_eq_ok h
  cases h
  rfl

/-- An element that still has to be walked below is as it was before its content was filled. -/
lemma content_some {walk : List Nat → Value → Local (Element Unit) Unit} {P : Element Unit}
    {inner : Value} (operator : ContentOperator)
    (h : (content c walk positions scope operand operator P).result = .ok (some inner)) :
    operator = .object ∧ (content c walk positions scope operand operator P).state = P := by
  cases operator with
  | object =>
    refine ⟨rfl, ?_⟩
    exact (Keeps.guarded (.pure ()) (.bind .runObject fun _ => .pure _) : Keeps (· = P)
      (content c walk positions scope operand .object)) P rfl
  | _ => cases guarded_ok bind_pure_ok h

end Local

end TreeTemplate
