import TreeTemplate.Text.Unprintable

/-!
# Quoted text

A text between quotation marks on one line, in which every character that has no visible form of
its own is written by an escape.
-/

namespace TreeTemplate.Text

/-- The digits of a code point in base sixteen. -/
def hexadecimal (n : Nat) : String :=
  String.ofList (Nat.toDigits 16 n)

/-- A character as it stands inside quotation marks. -/
def escaped (c : Char) : String :=
  match c with
  | '\x00' => "\\0"
  | '\t' => "\\t"
  | '\r' => "\\r"
  | '\n' => "\\n"
  | '\\' => "\\\\"
  | '"' => "\\\""
  | c =>
    if extendingMarks.contains c || unprintable.contains c then
      "\\u\x7b" ++ hexadecimal c.toNat ++ "\x7d"
    else c.toString

/-- A text between quotation marks. -/
def quoted (s : String) : String :=
  "\"" ++ String.join (s.toList.map escaped) ++ "\""

end TreeTemplate.Text
