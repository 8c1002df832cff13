import TreeTemplate.Formatter
import TreeTemplate.Operator
import TreeTemplate.Text.Quoted

/-!
# Engines

What a model is injected with: the dialect of the directives, the formatters by name, and the
number of elements that may be entered inside one another.
-/

namespace TreeTemplate

/-- What a model is injected with. -/
structure Engine where
  dialect : Dialect := .standard
  /-- The formatters in the order of their names. -/
  formatters : List (String × Formatter) := []
  /-- The number of elements that may be entered inside one another. -/
  maxDepth : Nat := 256

namespace Engine

/-- An engine without formatters, with the standard dialect. -/
instance : Inhabited Engine := ⟨{}⟩

/-- An engine with one more formatter; one with the same name is replaced. -/
def addFormatter (e : Engine) (name : String) (f : Formatter) : Engine :=
  { e with formatters := insertEntry name f e.formatters }

/-- The formatter with a name. -/
def formatter? (e : Engine) (name : String) : Option Formatter :=
  e.formatters.lookup name

/-- A formatter that was added is found. -/
theorem formatter?_addFormatter_self (e : Engine) (name : String) (f : Formatter) :
    (e.addFormatter name f).formatter? name = some f :=
  lookup_insertEntry_self ..

/-- A description of an engine for people. -/
def debugText (e : Engine) : String :=
  let marker := Text.quoted e.dialect.marker
  let format := Text.quoted e.dialect.formatAttribute
  let names := ", ".intercalate (e.formatters.map fun entry => Text.quoted entry.1)
  "Engine \x7b syntax: Syntax \x7b prefix: " ++ marker ++ ", format_attr: " ++ format
    ++ " \x7d, formats: [" ++ names ++ "], max_depth: " ++ toString e.maxDepth ++ ", .. \x7d"

end Engine

end TreeTemplate
