import TreeTemplate.Decimal.Integer

/-!
# Faults of markup

Why a text is not accepted as markup, and the words for it. Positions count the bytes of the UTF-8
form; those of an attribute count from the first byte of its tag, those of a reference from the
first byte of the text that holds it.
-/

namespace TreeTemplate.Markup

/-- Why a reference to a character cannot be resolved. -/
inductive ReferenceFault where
  /-- No semicolon follows the ampersand at `start`, in a text that ends at `stop`. -/
  | unterminated (start stop : Nat)
  /-- The name between `start` and `stop` stands for nothing. -/
  | unknownName (start stop : Nat) (name : String)
  /-- A number has a sign. -/
  | signed
  /-- What should be a number is none. -/
  | numeral (error : Decimal.NumeralError)
  /-- The number is zero. -/
  | zero
  /-- The number is that of no character. -/
  | noCharacter (number : Nat)
deriving Repr, DecidableEq

/-- Why the attributes of a tag cannot be read. -/
inductive AttributeFault where
  /-- Nothing follows the equals sign; `position` is the end of the tag. -/
  | missingValue (position : Nat)
  /-- A quotation mark is not closed; `position` is the end of the tag. -/
  | openQuote (position : Nat) (quote : Char)
  /-- The name at `position` stands already at `previous`. -/
  | repeated (position previous : Nat)
deriving Repr, DecidableEq

/-- Why a construct cannot be read. -/
inductive ConstructFault where
  | openTag
  | openCharacterData
  | openComment
  | openDoctype
  | openInstruction
  /-- What follows an exclamation mark is none of the constructs that begin so. -/
  | unknown
  /-- A document type without a name. -/
  | namelessDoctype
  /-- An end tag where no element is open. -/
  | strayEnd (name : String)
  /-- An end tag that does not name the innermost open element. -/
  | wrongEnd (expected found : String)
deriving Repr, DecidableEq

/-- Why a text is not accepted as markup. -/
inductive Fault where
  /-- A construct cannot be read; `position` is the byte that is blamed. -/
  | construct (fault : ConstructFault) (position : Nat)
  /-- A text holds a reference that cannot be resolved. -/
  | text (fault : ReferenceFault)
  /-- The attributes of a tag cannot be read. -/
  | attributes (fault : AttributeFault)
  /-- The value of an attribute holds a reference that cannot be resolved. -/
  | value (fault : ReferenceFault)
  /-- The text ends while an element is open. -/
  | openElement (tag : String)
deriving Repr, DecidableEq

/-- The words for a text that is no whole number. -/
def numeralMessage : Decimal.NumeralError → String
  | .empty => "cannot parse integer from empty string"
  | .invalidDigit => "invalid digit found in string"
  | .tooLarge => "number too large to fit in target type"

/-- The words for a reference that cannot be resolved. -/
def ReferenceFault.message : ReferenceFault → String
  | unterminated start stop =>
    s!"Error while escaping character at range {start}..{stop}: Cannot find ';' after '&'"
  | unknownName start stop name => s!"at {start}..{stop}: unrecognized entity `{name}`"
  | signed => "invalid character reference: unexpected number sign"
  | numeral error => "invalid character reference: " ++ numeralMessage error
  | zero => "invalid character reference: 0x0 character is not permitted in XML"
  | noCharacter number => s!"invalid character reference: `{number}` is not a valid codepoint"

/-- The words for attributes that cannot be read. -/
def AttributeFault.message : AttributeFault → String
  | missingValue position => s!"position {position}: `=` must be followed by an attribute value"
  | openQuote position quote =>
    s!"position {position}: missing closing quote `{quote}` in attribute value"
  | repeated position previous =>
    s!"position {position}: duplicated attribute, previous declaration at position {previous}"

/-- The words for a construct that cannot be read. -/
def ConstructFault.message : ConstructFault → String
  | openTag => "syntax error: tag not closed: `>` not found before end of input"
  | openCharacterData => "syntax error: CDATA not closed: `]]>` not found before end of input"
  | openComment => "syntax error: comment not closed: `-->` not found before end of input"
  | openDoctype => "syntax error: DOCTYPE not closed: `>` not found before end of input"
  | openInstruction =>
    "syntax error: processing instruction or xml declaration not closed: `?>` not found " ++
      "before end of input"
  | unknown => "syntax error: unknown or missed symbol in markup"
  | namelessDoctype =>
    "ill-formed document: `<!DOCTYPE>` declaration does not contain a name of a document type"
  | strayEnd name => s!"ill-formed document: close tag `</{name}>` does not match any open tag"
  | wrongEnd expected found =>
    s!"ill-formed document: expected `</{expected}>`, but `</{found}>` was found"

/-- The words for a text that is not accepted. -/
def Fault.message : Fault → String
  | construct fault position => s!"invalid markup: {fault.message} at byte {position}"
  | text fault => s!"invalid markup: invalid text: {fault.message}"
  | attributes fault => s!"invalid markup: invalid attribute: {fault.message}"
  | value fault => s!"invalid markup: invalid attribute value: {fault.message}"
  | openElement tag => s!"invalid markup: unclosed element `<{tag}>`"

end TreeTemplate.Markup
