import RecordGate.Text.WordTable

/-!
# `RecordGate.Text.Word` — word characters and digits

ASCII letters, digits and `_` are decided directly; every other character is looked up.
-/

namespace RecordGate.Text

/-- `a` to `z`. -/
def isLower (c : Char) : Bool :=
  'a' ≤ c && c ≤ 'z'

/-- `A` to `Z`. -/
def isUpper (c : Char) : Bool :=
  'A' ≤ c && c ≤ 'Z'

/-- An ASCII letter. -/
def isLetter (c : Char) : Bool :=
  isLower c || isUpper c

/-- `0` to `9`. -/
def isAsciiDigit (c : Char) : Bool :=
  '0' ≤ c && c ≤ '9'

/-- An ASCII letter or digit. -/
def isAlphanumeric (c : Char) : Bool :=
  isLetter c || isAsciiDigit c

/-- A character that may start an identifier: an ASCII letter or `_`. -/
def isNameStart (c : Char) : Bool :=
  isLetter c || c == '_'

/-- A character that may continue an identifier: an ASCII letter, an ASCII digit or `_`. -/
def isNamePart (c : Char) : Bool :=
  isAlphanumeric c || c == '_'

/-- A decimal digit of any script. -/
def isDigit (c : Char) : Bool :=
  if c.toNat < 0x80 then isAsciiDigit c else inRanges digitRanges c.toNat

/-- A word character: letters, marks, digits, connectors and joiners of any script. -/
def isWord (c : Char) : Bool :=
  if c.toNat < 0x80 then isNamePart c else inRanges wordRanges c.toNat

end RecordGate.Text
