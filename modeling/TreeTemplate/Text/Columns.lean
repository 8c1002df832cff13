import TreeTemplate.Text.Columns.Tables

/-!
# Columns of a text

The number of columns that a text takes on a terminal. Each character has a width of its own, and
characters that join take less than their widths together: the two halves of a line break, an
emoji with its selector, skin tone or joiner, the letters of a flag, and the ligatures of several
scripts.

The text is read from its last character to its first. What has been read leaves behind a
`Follower`, all that the characters before it can join with, and `Follower.before` says what one
more character in front adds to the count. It may add less than nothing: a sign that stacks the
letter behind it takes away the column of that letter.
-/

namespace TreeTemplate.Text

/-- What stands behind a character and may join with it. -/
inductive Joint where
  /-- Nothing that joins. -/
  | loose
  /-- A line feed. -/
  | lineFeed
  /-- An emoji. -/
  | emoji
  /-- A skin tone. -/
  | skinTone
  /-- One letter of a flag. -/
  | flagLetter
  /-- Several letters of flags. -/
  | flags
  /-- A joiner and an emoji. -/
  | joinedEmoji
  /-- The frame of a key, a joiner and an emoji. -/
  | joinedKeycap
  /-- One letter of a flag, a joiner and an emoji. -/
  | joinedFlagLetter
  /-- Pairs of letters of flags, a joiner and an emoji. -/
  | joinedFlags
  /-- An odd number of letters of flags above one, a joiner and an emoji. -/
  | joinedOddFlags
  /-- A number of tag letters, the end of a tag sequence, a joiner and an emoji. -/
  | joinedTagLetters (count : Nat)
  /-- A number of tag digits, tag letters, the end of a tag sequence, a joiner and an emoji. -/
  | joinedTagDigits (count : Nat)
  /-- The Arabic letter alef. -/
  | alef
  /-- The Hebrew letter lamed, or a joiner and lamed. -/
  | lamed (joined : Bool)
  /-- A Khmer letter that can be stacked. -/
  | khmerLetter
  /-- The Buginese letter ya, or a joiner and ya. -/
  | ya (joined : Bool)
  /-- The Buginese vowel sign i, a joiner and the letter ya. -/
  | vowelAndYa
  /-- A consonant of Tifinagh, or a joiner and a consonant. -/
  | tifinagh (joined : Bool)
  /-- The consonant joiner of Tifinagh and a consonant. -/
  | tifinaghJoiner
  /-- A tone letter of Lisu that ends a pair. -/
  | lisuTone
  /-- The Old Turkic letter i, or a joiner and that letter. -/
  | orkhonI (joined : Bool)
deriving DecidableEq

/-- The two selectors that ask for a character to be shown in one way. -/
inductive Selector where
  | text
  | emoji
deriving DecidableEq

/-- All that is known of the text behind a character: what may join with the character, and the
selector that stands between the two. -/
structure Follower where
  joint : Joint
  selector : Option Selector
deriving DecidableEq

/-- What follows the last character of a text. -/
def Follower.nothing : Follower := ⟨.loose, none⟩

namespace Joint

/-- Whether marks that have no form of their own may stand in the ligature. -/
def isTransparent : Joint → Bool
  | .lamed _ | .khmerLetter | .ya _ | .vowelAndYa | .tifinagh _ | .tifinaghJoiner | .lisuTone
  | .orkhonI _ => true
  | _ => false

/-- Whether the joint is the start of a ligature of letters. -/
def isLetter (j : Joint) : Bool :=
  j = .alef || j.isTransparent

/-- Whether the joint is an emoji behind a joiner, with or without the frame of a key. -/
def awaitsEmoji (j : Joint) : Bool :=
  j = .joinedEmoji || j = .joinedKeycap

/-- A joiner in front of a letter of a ligature. -/
def joined : Joint → Joint
  | .lamed _ => .lamed true
  | .ya _ => .ya true
  | .tifinagh _ => .tifinagh true
  | .orkhonI _ => .orkhonI true
  | j => j

/-- What a selector leaves of a joint behind it. -/
def select (j : Joint) : Selector → Follower
  | .emoji => ⟨if j.isLetter || j.awaitsEmoji then j else .loose, some .emoji⟩
  | .text => ⟨if j.isLetter then j else .loose, some .text⟩

/-- The columns that a character adds in front of a joint that it joins with, and the joint that
the two make. -/
def join? (j : Joint) (c : Char) : Option (Int × Joint) :=
  match j with
  | .loose | .lineFeed => none
  | .emoji => if c = '\u200D' then some (0, .joinedEmoji) else none
  | .skinTone =>
    if emojiModifierBase.contains c then some (0, .emoji)
    else if c = '\u200D' then some (0, .joinedEmoji)
    else none
  | .flagLetter => if flagLetters.contains c then some (1, .flags) else none
  | .flags =>
    if flagLetters.contains c then some (1, .flags)
    else if c = '\u200D' then some (0, .joinedEmoji)
    else none
  | .joinedEmoji =>
    if c = '\u20E3' then some (0, .joinedKeycap)
    else if flagLetters.contains c then some (1, .joinedFlagLetter)
    else if skinTones.contains c then some (0, .skinTone)
    else if c.toNat = 0xE007F then some (0, .joinedTagLetters 0)
    else if emojiByDefault.contains c then some (0, .emoji)
    else none
  | .joinedKeycap => none
  | .joinedFlagLetter => if flagLetters.contains c then some (-1, .joinedFlags) else none
  | .joinedFlags =>
    if flagLetters.contains c then some (3, .joinedOddFlags)
    else if c = '\u200D' then some (0, .joinedEmoji)
    else none
  | .joinedOddFlags =>
    if flagLetters.contains c then some (-1, .joinedFlags)
    else if c = '\u200D' then some (0, .joinedEmoji)
    else none
  | .joinedTagLetters count =>
    if count < 6 && inRanges c.toNat [(0xE0061, 0xE007A)] then
      some (0, .joinedTagLetters (count + 1))
    else if count < 5 && inRanges c.toNat [(0xE0030, 0xE0039)] then some (0, .joinedTagDigits 1)
    else if 3 ≤ count && c.toNat = 0x1F3F4 then some (0, .emoji)
    else none
  | .joinedTagDigits count =>
    if count < 3 && inRanges c.toNat [(0xE0030, 0xE0039)] then
      some (0, .joinedTagDigits (count + 1))
    else if count = 3 && c.toNat = 0x1F3F4 then some (0, .emoji)
    else none
  | .alef =>
    if lamForms.contains c then some (0, .loose)
    else if zeroWidth.contains c && !joiningOpaque.contains c then some (0, .alef)
    else none
  | .lamed between => if between && c = '\u05D0' then some (0, .loose) else none
  | .khmerLetter => if c = '\u17D2' then some (-1, .loose) else none
  | .ya between => if between && c = '\u1A17' then some (0, .vowelAndYa) else none
  | .vowelAndYa => if c = '\u1A15' then some (0, .loose) else none
  | .tifinagh between =>
    if c = '\u2D7F' then some (1, .tifinaghJoiner)
    else if between && tifinaghConsonants.contains c then some (0, .loose)
    else none
  | .tifinaghJoiner => if tifinaghConsonants.contains c then some (-1, .loose) else none
  | .lisuTone => if inRanges c.toNat [(0xA4F8, 0xA4FB)] then some (0, .loose) else none
  | .orkhonI between => if between && c.toNat = 0x10C32 then some (0, .loose) else none

end Joint

/-- The columns of a character on its own, above the blanks. -/
def charColumns (c : Char) : Nat :=
  if c = '\u17D8' then 3
  else if zeroWidth.contains c then 0
  else if doubleWidth.contains c then 2
  else 1

/-- What a character offers to the characters before it. -/
def Joint.ofChar (c : Char) : Joint :=
  if skinTones.contains c then .skinTone
  else if flagLetters.contains c then .flagLetter
  else if emojiByDefault.contains c then .emoji
  else if alefForms.contains c then .alef
  else if c = '\u05DC' then .lamed false
  else if khmerStackable.contains c then .khmerLetter
  else if c = '\u1A10' then .ya false
  else if tifinaghConsonants.contains c then .tifinagh false
  else if c = '\uA4FC' || c = '\uA4FD' then .lisuTone
  else if c.toNat = 0x10C03 then .orkhonI false
  else .loose

/-- The columns that a character adds in front of a joint, and what follows the character before
it. A control takes one column, as any character of the first blocks does, save that a line feed
takes none and neither does a carriage return in front of one. -/
def Joint.before (j : Joint) (c : Char) : Int × Follower :=
  if c.toNat ≤ 0xA0 then
    if c = '\n' then (0, ⟨.lineFeed, none⟩)
    else if c = '\r' && j = .lineFeed then (0, .nothing)
    else (1, .nothing)
  else if c = '\uFE0F' then (0, j.select .emoji)
  else if c = '\uFE0E' then (0, j.select .text)
  else if j.isTransparent && c = '\u200D' then (0, ⟨j.joined, none⟩)
  else if j.isTransparent && invisibleMarks.contains c then (0, ⟨j, none⟩)
  else
    match j.join? c with
    | some (n, j) => (n, ⟨j, none⟩)
    | none => (charColumns c, ⟨.ofChar c, none⟩)

/-- The columns that a character adds in front of what follows it, and what then follows the
character before it. A selector binds to the character in front of it if that character has the
form asked for; otherwise it stands for nothing, though a ligature of letters joins through it. -/
def Follower.before (f : Follower) (c : Char) : Int × Follower :=
  let bare : Joint := if f.joint.isLetter then f.joint else .loose
  match f.selector with
  | none => f.joint.before c
  | some .emoji =>
    if emojiSelectable.contains c then
      (if f.joint.awaitsEmoji then 0 else 2, ⟨.emoji, none⟩)
    else bare.before c
  | some .text => if textSelectable.contains c then (1, .nothing) else bare.before c

/-- The columns of a text and what it offers to the characters before it. -/
def columnsAndFollower (s : List Char) : Int × Follower :=
  s.foldr
    (fun c behind =>
      let (n, follower) := behind.2.before c
      (behind.1 + n, follower))
    (0, .nothing)

/-- The columns of a text. -/
def columns (s : List Char) : Nat :=
  (columnsAndFollower s).1.toNat

end TreeTemplate.Text
