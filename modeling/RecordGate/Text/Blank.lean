/-!
# `RecordGate.Text.Blank` — white space and trimming

A character is *blank* when it has the Unicode property `White_Space`: twenty-five code points. Trimming
removes blanks at either end of a text and nothing else.
-/

namespace RecordGate.Text

/-- The Unicode property `White_Space`. -/
def isBlank (c : Char) : Bool :=
  let n := c.toNat
  (0x09 ≤ n && n ≤ 0x0D) || n == 0x20 || n == 0x85 || n == 0xA0 || n == 0x1680 ||
    (0x2000 ≤ n && n ≤ 0x200A) || n == 0x2028 || n == 0x2029 || n == 0x202F || n == 0x205F || n == 0x3000

/-- The characters from the first one that is not blank. -/
def trimStart (cs : List Char) : List Char :=
  cs.dropWhile isBlank

/-- The characters up to the last one that is not blank. -/
def trimEnd (cs : List Char) : List Char :=
  (cs.reverse.dropWhile isBlank).reverse

/-- The characters from the first to the last one that is not blank. -/
def trim (cs : List Char) : List Char :=
  trimEnd (trimStart cs)

/-- A text without the blanks at its ends. -/
def trimmed (s : String) : String :=
  String.ofList (trim s.toList)

/-- A text of which nothing is left by trimming. -/
def isBlankText (s : String) : Bool :=
  s.toList.all isBlank

/-- The text, unless it is absent or blank. -/
def nonBlank? (s : Option String) : Option String :=
  s.filter fun s => !isBlankText s

/-! ## Small laws -/

theorem trimmed_toList (s : String) : (trimmed s).toList = trim s.toList :=
  String.toList_ofList

end RecordGate.Text
