import RecordGate.Text.Word
import RecordGate.Text.Letter

/-!
# `RecordGate.Name.Casing` — names in camel case and in snake case

`camel` joins the segments between underscores, each with its first letter in upper case and the others in
lower case. `snake` goes the other way: it puts an underscore at every word boundary it sees in the letters'
case, and writes everything in lower case. Case is ASCII case; the digits next to a boundary may be of any script.
-/

namespace RecordGate.Name

open Text

/-! ## Camel case -/

/-- Reads a name from inside a segment, or from the start of one if `initial`. -/
def camelFrom (initial : Bool) : List Char → List Char
  | [] => []
  | c :: cs =>
    if c == '_' then camelFrom true cs
    else (if initial then upper c else lower c) :: camelFrom false cs

/-- The segments of a name between underscores, joined in camel case. -/
def camel (cs : List Char) : List Char :=
  camelFrom true cs

/-- A name in camel case: `blog_post` becomes `BlogPost`. -/
def camelCase (s : String) : String :=
  String.ofList (camel s.toList)

/-! ## Snake case -/

/-- Whether a word starts at the upper-case letter `c`: after a lower-case letter or a digit always, after
    another upper-case letter if a lower-case letter follows (`HTMLPage` is `HTML` and `Page`). -/
def isBoundary (before : Option Char) (c : Char) (after : Option Char) : Bool :=
  isUpper c &&
    match before with
    | none => false
    | some b => isLower b || isDigit b || (isUpper b && after.any isLower)

/-- One character of a name in snake case: hyphens become underscores, letters lower case. -/
def snakeChar (c : Char) : Char :=
  if c == '-' then '_' else lower c

/-- Reads a name after the character `before`. -/
def snakeFrom (before : Option Char) : List Char → List Char
  | [] => []
  | c :: cs =>
    if isBoundary before c cs.head? then '_' :: snakeChar c :: snakeFrom (some c) cs
    else snakeChar c :: snakeFrom (some c) cs

/-- The words of a name, joined by underscores in lower case. -/
def snake (cs : List Char) : List Char :=
  snakeFrom none cs

/-- A name in snake case: `BlogPost` becomes `blog_post`, `HTMLPage` becomes `html_page`. -/
def snakeCase (s : String) : String :=
  String.ofList (snake s.toList)

end RecordGate.Name
