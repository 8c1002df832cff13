import TreeTemplate.Markup.Lexeme
import TreeTemplate.Tree

/-!
# Reading markup

Markup is scanned lexeme by lexeme for what happens in it: texts, beginnings and ends of elements.
Elements must be closed in the order in which they were opened. A text that is nothing but white
space is dropped, character data never is, and the constructs that are passed over leave no trace.

Trees are read from what happens, one event after another. When something is wrong, the reading ends
there; what was read up to that place is known, with the open elements closed.

Main statements:

* `parse_eq_ok` — markup is accepted when nothing is wrong with it.
-/

namespace TreeTemplate.Markup

/-! ## What happens in markup -/

/-- Something that happens in markup. -/
inductive Event where
  | text (content : String)
  /-- An element begins; `closed` says that it ends there. -/
  | start (tag : String) (attrs : List (String × String)) (closed : Bool)
  /-- The innermost open element ends. -/
  | stop
  /-- Nothing that leaves a trace. -/
  | pass
deriving Repr

/-- The tags of the elements that are open after an event, the innermost first. -/
def Event.opens (opened : List String) : Event → List String
  | .start tag _ false => tag :: opened
  | .stop => opened.tail
  | _ => opened

/-- What happens at a lexeme that begins at `position`, where `innermost?` is the tag of the
innermost open element. -/
def Lexeme.event (innermost? : Option String) (position : Nat) : Lexeme → Except Fault Event
  | .text raw =>
    match resolve raw with
    | .error fault => .error (.text fault)
    | .ok content =>
      if Text.allBlank content then .ok .pass else .ok (.text (String.ofList content))
  | .characterData content => .ok (.text (String.ofList content))
  | .aside => .ok .pass
  | .startTag body closed => do
    let tag := body.takeWhile fun c => !isSpace c
    let attrs ← readAttributes (Text.bytes body) (Text.bytes tag) 0 [] (body.drop tag.length)
    return .start (String.ofList tag) attrs closed
  | .endTag name =>
    match innermost? with
    | none => .error (.construct (.strayEnd (String.ofList name)) position)
    | some tag =>
      if tag = String.ofList name then .ok .stop
      else .error (.construct (.wrongEnd tag (String.ofList name)) position)

/-- What happens in the rest of markup, which begins at `position` inside the elements with the
given tags, up to where something is wrong. The first `skip` characters belong to the lexeme
before. -/
def scan (position skip : Nat) (opened : List String) : List Char → List Event × Option Fault
  | [] => ([], opened.head?.map .openElement)
  | c :: s =>
    match skip with
    | skip + 1 => scan (position + c.utf8Size) skip opened s
    | 0 =>
      match Lexeme.read c s with
      | .error (fault, offset) => ([], some (.construct fault (position + offset)))
      | .ok (lexeme, extent) =>
        match lexeme.event opened.head? position with
        | .error fault => ([], some fault)
        | .ok event =>
          let (events, fault?) :=
            scan (position + c.utf8Size) (extent.length - 1) (event.opens opened) s
          (event :: events, fault?)

/-- What happens in markup up to where something is wrong, and what that is. A byte order mark at
its beginning does not count. -/
def events (markup : String) : List Event × Option Fault :=
  match markup.toList with
  | '\uFEFF' :: s => scan 0 0 [] s
  | s => scan 0 0 [] s

/-! ## Trees -/

/-- A tree as it is read from markup. -/
abbrev Bare := Tree Unit

/-- An element whose end has not been read, with its siblings before it, the last first. -/
structure OpenElement where
  tag : String
  attrs : List (String × String)
  before : List Bare

/-- How far markup has been read: the nodes at the place that was reached, the last first, and the
open elements around it, the innermost first. -/
structure Reading where
  siblings : List Bare := []
  opened : List OpenElement := []

namespace Reading

/-- A node more at the place that was reached. -/
def add (r : Reading) (t : Bare) : Reading :=
  { r with siblings := t :: r.siblings }

/-- Goes into a new element. -/
def enter (r : Reading) (tag : String) (attrs : List (String × String)) : Reading :=
  ⟨[], ⟨tag, attrs, r.siblings⟩ :: r.opened⟩

/-- Goes out of the innermost open element. -/
def leave (r : Reading) : Reading :=
  match r.opened with
  | [] => r
  | element :: around =>
    ⟨.element () element.tag element.attrs false r.siblings.reverse :: element.before, around⟩

/-- Goes on over an event. -/
def apply (r : Reading) : Event → Reading
  | .text content => r.add (.text () content)
  | .start tag attrs true => r.add (.element () tag attrs false [])
  | .start tag attrs false => r.enter tag attrs
  | .stop => r.leave
  | .pass => r

/-- The nodes around the open elements, once those are closed. -/
def close (siblings : List Bare) : List OpenElement → List Bare
  | [] => siblings.reverse
  | element :: around =>
    close (.element () element.tag element.attrs false siblings.reverse :: element.before) around

/-- All that has been read, with the open elements closed. -/
def trees (r : Reading) : List Bare :=
  close r.siblings r.opened

end Reading

/-- What markup holds: the trees, and what is wrong with it if anything is. -/
structure Contents where
  trees : List Bare
  fault? : Option Fault

/-- Reads markup. -/
def read (markup : String) : Contents :=
  let (events, fault?) := events markup
  ⟨(events.foldl Reading.apply {}).trees, fault?⟩

/-- The trees of markup, if nothing is wrong with it. -/
def parse (markup : String) : Except Fault (List Bare) :=
  match (read markup).fault? with
  | some fault => .error fault
  | none => .ok (read markup).trees

/-- Markup is accepted when nothing is wrong with it. -/
theorem parse_eq_ok {markup : String} {trees : List Bare} :
    parse markup = .ok trees ↔ (read markup).fault? = none ∧ (read markup).trees = trees := by
  unfold parse
  cases (read markup).fault? <;> simp

end TreeTemplate.Markup
