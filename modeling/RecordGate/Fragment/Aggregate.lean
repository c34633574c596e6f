import RecordGate.Text.Blank
import RecordGate.Text.Letter
import RecordGate.Text.Word

/-!
# `RecordGate.Fragment.Aggregate` — reductions of a set of records to one value

A statement such as `count`, `sum(price)` or `maximum(:created_at)` is read into one of finitely many forms. The
column may be written bare, behind a colon or in quotation marks; only its name is kept.
-/

namespace RecordGate.Fragment

open Text

/-- The functions of a column. -/
inductive ColumnFunction where
  | count
  | sum
  | average
  | minimum
  | maximum
  deriving DecidableEq, Repr

/-- A reduction of a set of records to one value. -/
inductive Aggregate where
  /-- The number of records. -/
  | count
  /-- A function of the values in one column. -/
  | column (function : ColumnFunction) (name : String)
  deriving DecidableEq, Repr

/-- The name under which an evaluator knows a function. -/
def ColumnFunction.method : ColumnFunction → String
  | .count => "count"
  | .sum => "sum"
  | .average => "average"
  | .minimum => "minimum"
  | .maximum => "maximum"

/-- The names under which a statement may call a function. -/
def functionNames : List (String × ColumnFunction) :=
  [("count", .count), ("sum", .sum), ("average", .average), ("avg", .average), ("minimum", .minimum),
    ("min", .minimum), ("maximum", .maximum), ("max", .maximum)]

/-- The function called `cs`, whatever the case of its ASCII letters. -/
def function? (cs : List Char) : Option ColumnFunction :=
  (functionNames.find? fun entry => entry.1.toList == cs.map lower).map (·.2)

/-! ## Columns -/

/-- An ASCII letter or `_`, then ASCII letters, digits and `_`. -/
def isIdentifier : List Char → Bool
  | [] => false
  | c :: cs => isNameStart c && cs.all isNamePart

/-- An identifier, or two of them joined by a dot. -/
def isColumn (cs : List Char) : Bool :=
  match cs.dropWhile (· != '.') with
  | [] => isIdentifier cs
  | _ :: column => isIdentifier (cs.takeWhile (· != '.')) && isIdentifier column

/-- What stands before the quotation mark `mark` at the end of `cs`. -/
def beforeMark? (mark : Char) (cs : List Char) : Option (List Char) :=
  if cs.getLast? == some mark then some cs.dropLast else none

/-- A column reference without the colon before it or the quotation marks around it. -/
def bareColumn : List Char → List Char
  | ':' :: cs => cs
  | '"' :: cs => (beforeMark? '"' cs).getD ('"' :: cs)
  | '\'' :: cs => (beforeMark? '\'' cs).getD ('\'' :: cs)
  | cs => cs

/-- The column that a reference names. -/
def column? (reference : List Char) : Option String :=
  let column := bareColumn reference
  if isColumn column then some (String.ofList column) else none

/-! ## Statements -/

/-- The text between the parentheses that `cs` consists of, without the white space around it. No parentheses at
    all give the empty text. -/
def argument? : List Char → Option (List Char)
  | [] => some []
  | '(' :: cs =>
    (beforeMark? ')' cs).bind fun inner =>
      if inner.any fun c => c == '(' || c == ')' then none else some (trim inner)
  | _ => none

/-- The function of an argument: without one, or of `*`, only records can be counted. -/
def applied? (function : ColumnFunction) (argument : List Char) : Option Aggregate :=
  if argument.isEmpty || (argument == ['*'] && function == .count) then
    if function == .count then some .count else none
  else (column? argument).map (.column function)

/-- The reduction that a statement asks for. -/
def aggregate? (s : String) : Option Aggregate :=
  let cs := trim s.toList
  let name := cs.takeWhile fun c => !isBlank c && c != '('
  let rest := trimStart (cs.drop name.length)
  (function? name).bind fun function => (argument? rest).bind (applied? function)

end RecordGate.Fragment
