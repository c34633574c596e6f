/-!
# `RecordGate.Text.Letter` — ASCII case, and equality of letters up to case

`lower` and `upper` change ASCII letters only. `sameLetter` is equality under simple case folding with a
lower-case ASCII character: besides the two ASCII cases, `ſ` (U+017F) folds to `s` and the Kelvin sign (U+212A)
to `k`, and no other character folds to an ASCII one.
-/

namespace RecordGate.Text

/-- The lower case of an ASCII letter; any other character is kept. -/
def lower (c : Char) : Char :=
  if 'A' ≤ c && c ≤ 'Z' then Char.ofNat (c.toNat + 32) else c

/-- The upper case of an ASCII letter; any other character is kept. -/
def upper (c : Char) : Char :=
  if 'a' ≤ c && c ≤ 'z' then Char.ofNat (c.toNat - 32) else c

/-- A text with its ASCII letters in lower case. -/
def lowered (s : String) : String :=
  String.ofList (s.toList.map lower)

/-- The simple case folding of a character, as far as it leads to ASCII. -/
def fold (c : Char) : Char :=
  if c.toNat == 0x17F then 's' else if c.toNat == 0x212A then 'k' else lower c

/-- Whether `c` is the lower-case ASCII character `l` up to case. -/
def sameLetter (l c : Char) : Bool :=
  fold c == l

/-- What is left of `cs` after the word `w` (in lower case), read up to case. -/
def afterWord? : List Char → List Char → Option (List Char)
  | [], cs => some cs
  | _ :: _, [] => none
  | l :: w, c :: cs => if sameLetter l c then afterWord? w cs else none

end RecordGate.Text
