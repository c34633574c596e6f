import RecordGate.Shell.Machine
import RecordGate.Shell.Pattern

/-!
# `RecordGate.Shell.Field` — words after expansion

Expanding a word gives marks: octets, and traces of quotation marks and of the positional parameters. From them the
fields of the word are cut. Only what was substituted outside quotation marks is cut, at the octets of the separator
variable: white space around a field is dropped, every other separator ends a field.

## Contents
- `Mark`, `marksOf` — what expansion gives.
- `joined` — all marks as one text.
- `fields` — the fields of a word.
-/

namespace RecordGate.Shell

/-- What the expansion of a word gives. -/
inductive Mark where
  /-- An octet, whether it is quoted, and whether it may separate fields. -/
  | octet (c : Char) (quoted divisible : Bool)
  /-- The boundary between two positional parameters. -/
  | boundary
  /-- Quotation marks, which make a field even if nothing stands between them. -/
  | present
  /-- All positional parameters, of which there are none. -/
  | absent
  deriving DecidableEq, Repr

/-- The marks of a value that is substituted. -/
def marksOf (inQuotes : Bool) (cs : Octets) : List Mark :=
  cs.map fun c => .octet c inQuotes (!inQuotes)

/-- The marks of a word that stands for a value: without quotation marks, its own text may be cut too. -/
def substituted (inQuotes : Bool) (marks : List Mark) : List Mark :=
  marks.map fun
    | .octet c false false => .octet c inQuotes (!inQuotes)
    | mark => mark

/-- All marks as one text, with a space for each boundary. -/
def joined (marks : List Mark) : List Glyph :=
  marks.filterMap fun
    | .octet c quoted _ => some (c, quoted)
    | .boundary => some (' ', true)
    | .present | .absent => none

/-- All marks as one text, in which it does not matter what was quoted. -/
def joinedText (marks : List Mark) : Octets :=
  (joined marks).map (·.1)

/-- The octets that separate fields. -/
def Machine.separators (m : Machine) : Octets :=
  (m.get? "IFS".toList).getD [' ', '\t', '\n']

/-- A field that is being cut. -/
structure Cutter where
  /-- The fields that are complete, the last one first. -/
  done : List (List Glyph) := []
  /-- The field that is not complete, the last octet first. -/
  current : Option (List Glyph) := none
  /-- Whether the last field was ended by white space. -/
  afterSpace : Bool := false

/-- The cutter when a field ends. -/
def Cutter.cut (c : Cutter) (afterSpace : Bool) : Cutter :=
  match c.current with
  | none => c
  | some cs => ⟨cs.reverse :: c.done, none, afterSpace⟩

/-- The cutter behind a mark. -/
def Cutter.take (separators : Octets) (c : Cutter) : Mark → Cutter
  | .present => { c with current := some (c.current.getD []) }
  | .absent => c
  | .boundary => c.cut false
  | .octet o quoted divisible =>
    if divisible && separators.contains o then
      if isSpace o then c.cut true
      else if c.current.isNone && c.afterSpace then { c with afterSpace := false }
      else ({ c with current := some (c.current.getD []) }).cut false
    else { c with current := some ((o, quoted) :: c.current.getD []), afterSpace := false }

/-- Whether marks are no field at all: the positional parameters in quotation marks, if there are none. -/
def isVoid (marks : List Mark) : Bool :=
  marks.contains .absent && marks.all fun
    | .absent | .present => true
    | _ => false

/-- The fields that the marks of a word make. -/
def fields (separators : Octets) (marks : List Mark) : List (List Glyph) :=
  if isVoid marks then []
  else ((marks.foldl (Cutter.take separators) {}).cut false).done.reverse

end RecordGate.Shell
