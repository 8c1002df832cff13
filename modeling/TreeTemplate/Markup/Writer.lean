import TreeTemplate.Markup.Reference
import TreeTemplate.Tree

/-!
# Writing markup

A tree as markup. Hidden elements are left out, and an element without anything below it is written
as one tag.

Main statements:

* `markup_relabel` — the markup does not show the labels.
-/

namespace TreeTemplate.Tree

variable {ι κ : Type}

/-- The attributes of a tag, each behind a blank. -/
def attrsMarkup : List (String × String) → String
  | [] => ""
  | (name, value) :: attrs =>
    " " ++ name ++ "=\"" ++ String.ofList (Markup.escapeValue value.toList) ++ "\""
      ++ attrsMarkup attrs

mutual

/-- A tree as markup. -/
def markup : Tree ι → String
  | element _ tag attrs hidden children =>
    if hidden then ""
    else if children.isEmpty then "<" ++ tag ++ attrsMarkup attrs ++ "/>"
    else "<" ++ tag ++ attrsMarkup attrs ++ ">" ++ markups children ++ "</" ++ tag ++ ">"
  | text _ content => String.ofList (Markup.escape content.toList)

/-- Trees side by side as markup. -/
def markups : List (Tree ι) → String
  | [] => ""
  | t :: ts => t.markup ++ markups ts

end

mutual

/-- Labels do not matter for the markup of a tree. -/
theorem markup_relabel (f : ι → κ) (t : Tree ι) : (t.relabel f).markup = t.markup := by
  cases t with
  | element label tag attrs hidden children =>
    simp only [relabel, markup, markups_relabelAll f children]
    cases children <;> rfl
  | text label content => rfl

/-- Labels do not matter for the markup of several trees. -/
theorem markups_relabelAll (f : ι → κ) (ts : List (Tree ι)) :
    markups (relabelAll f ts) = markups ts := by
  cases ts with
  | nil => rfl
  | cons t ts => simp only [relabelAll, markups, markup_relabel f t, markups_relabelAll f ts]

end

end TreeTemplate.Tree
