import RecordGate.Text.Blank
import RecordGate.Text.Letter
import RecordGate.Text.Word

/-!
# `RecordGate.Fragment.Condition` — which free text may go into a query

A condition is free text. It is refused when it contains a word that changes data or structure, a call of a stored
procedure, the start of a second statement, the start of a comment, a backslash or a NUL. Words are compared up to
case, and stand between characters that are not word characters, so that `deleted` or `updated_at` are accepted.
-/

namespace RecordGate.Fragment

open Text

/-- The words that may not occur. -/
def keywords : List String :=
  ["drop", "delete", "update", "insert", "alter", "create", "truncate", "exec"]

/-- What the name of a stored procedure starts with. -/
def procedureMark : String :=
  "sp_"

/-- Whether a word character is next. -/
def startsWord (cs : List Char) : Bool :=
  cs.head?.any isWord

/-- Whether the next word is `w`, up to case. -/
def startsKeyword (w : String) (cs : List Char) : Bool :=
  (afterWord? w.toList cs).any fun rest => !startsWord rest

/-- Whether the next word is the name of a stored procedure. -/
def startsProcedure (cs : List Char) : Bool :=
  (afterWord? procedureMark.toList cs).any startsWord

/-- Whether a refused construct that is no word starts here: a semicolon with a statement behind it, a comment, a
    backslash or a NUL. -/
def startsMark : List Char → Bool
  | ';' :: cs => startsWord (trimStart cs)
  | '-' :: '-' :: _ => true
  | '/' :: '*' :: _ => true
  | c :: _ => c == '\\' || c == '\x00'
  | [] => false

/-- Whether a refused construct starts at `cs`, where `inWord` tells that a word character stands before it. -/
def startsRefused (inWord : Bool) (cs : List Char) : Bool :=
  (!inWord && (keywords.any (startsKeyword · cs) || startsProcedure cs)) || startsMark cs

/-- Whether no refused construct starts in `cs`. -/
def safeFrom (inWord : Bool) : List Char → Bool
  | [] => true
  | c :: cs => !startsRefused inWord (c :: cs) && safeFrom (isWord c) cs

/-- Whether a text contains no refused construct. -/
def isSafe (s : String) : Bool :=
  safeFrom false s.toList

end RecordGate.Fragment
