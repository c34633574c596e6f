import RecordGate.Text.Blank
import RecordGate.Text.Letter
import RecordGate.Text.Word

/-!
# `RecordGate.Fragment.Ordering` — which text may order the records

An ordering is a list of columns, perhaps with a direction behind it. Its characters are ASCII letters, digits,
`_`, `.`, `,` and white space; only the letters of a direction at the end are read up to case. Text that is no
ordering is left out of a query without further notice.
-/

namespace RecordGate.Fragment

open Text

/-- A character of a list of columns. -/
def isOrderChar (c : Char) : Bool :=
  isAlphanumeric c || c == '_' || c == '.' || c == ',' || isBlank c

/-- The directions. -/
def directions : List String :=
  ["asc", "desc"]

/-- Whether the text is a list of columns, white space, and the direction `d` up to case. -/
def hasDirection (cs : List Char) (d : String) : Bool :=
  let columns := cs.take (cs.length - d.length)
  let tail := cs.drop (cs.length - d.length)
  afterWord? d.toList tail == some [] && 2 ≤ columns.length && columns.all isOrderChar &&
    columns.getLast?.any isBlank

/-- Whether the text is a list of columns, perhaps with a direction behind it. -/
def isOrdering (cs : List Char) : Bool :=
  (!cs.isEmpty && cs.all isOrderChar) || directions.any (hasDirection cs)

/-- The ordering that a text gives, without the white space around it. -/
def ordering? (s : String) : Option String :=
  if isOrdering s.toList && !isBlankText s then some (trimmed s) else none

end RecordGate.Fragment
