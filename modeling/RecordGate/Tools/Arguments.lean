import RecordGate.Json.Parser
import RecordGate.Query.Basic
import RecordGate.Text.Blank
import RecordGate.Text.Quoted
import RecordGate.Text.Word

/-!
# `RecordGate.Tools.Arguments` — requests from JSON values

The arguments of a tool are an object with optional members, or the list of their values. A member that is `null`
counts as absent, and members of other names are passed over. A value of the wrong type is an error, except for a
limit: it is read leniently from whatever stands there.

## Contents
- `ArgumentError` — a value of the wrong type, or too few or too many of them.
- `optionalText`, `optionalFlag` — members of one type.
- `lenientLimit` — a limit from a number, a text or anything else.
- `selectArguments`, `tableArguments`, `modelArguments`, `listArguments` — the arguments of each tool.
-/

namespace RecordGate.Tools

open Text Json

/-! ## Errors -/

/-- Why arguments cannot be read. -/
inductive ArgumentError where
  /-- A value of another type stands where `expected` should. -/
  | wrongType (found : Json) (expected : String)
  /-- A list of values ends too early or too late. -/
  | wrongLength (count : Nat) (expected : String)

/-- A number as an error quotes it. -/
def numeralText : Numeral → String
  | .negativeZero => "floating point `-0.0`"
  | .whole n =>
    if (Numeral.whole n).isInteger then "integer `" ++ toString n ++ "`"
    else "floating point `" ++ (((doubleOf? n.natAbs 0).map (·.text (n < 0))).getD "") ++ "`"
  | .decimal negative digits exponent =>
    "floating point `" ++ (((doubleOf? digits exponent).map (·.text negative)).getD "") ++ "`"

/-- A value as an error names it. -/
def found : Json → String
  | .null => "null"
  | .bool b => "boolean `" ++ toString b ++ "`"
  | .number n => numeralText n
  | .string s => "string " ++ quoted s
  | .array _ => "sequence"
  | .object _ => "map"

/-- The text of an error. -/
def ArgumentError.message : ArgumentError → String
  | .wrongType value expected => "invalid type: " ++ found value ++ ", expected " ++ expected
  | .wrongLength count expected => "invalid length " ++ Nat.repr count ++ ", expected " ++ expected

/-! ## Members -/

/-- A text, unless it is absent or `null`. -/
def optionalText : Option Json → Except ArgumentError (Option String)
  | none | some .null => .ok none
  | some (.string s) => .ok (some s)
  | some other => .error (.wrongType other "a string")

/-- A truth value, unless it is absent or `null`. -/
def optionalFlag : Option Json → Except ArgumentError (Option Bool)
  | none | some .null => .ok none
  | some (.bool b) => .ok (some b)
  | some other => .error (.wrongType other "a boolean")

/-! ## Limits -/

/-- The integer that a text starts with: white space, a sign, and digits. It is zero if there are no digits, or if
    they make more than 64 bits with a sign can hold. -/
def leadingInteger (s : String) : Int :=
  let cs := trimStart s.toList
  let (negative, cs) := match cs with
    | '-' :: cs => (true, cs)
    | '+' :: cs => (false, cs)
    | cs => (false, cs)
  let magnitude := natOfDigits (cs.takeWhile isAsciiDigit)
  if magnitude < 0x8000000000000000 then (if negative then -magnitude else magnitude) else 0

/-- A limit from whatever stands there: a number or the start of a text, brought into the range of 64 bits with a
    sign; zero for a truth value, a list or an object. -/
def lenientLimit : Option Json → Option Int64
  | none | some .null => none
  | some (.number n) => some (Int64.ofIntClamp n.truncate)
  | some (.string s) => some (Int64.ofIntClamp (leadingInteger s))
  | some _ => some 0

/-! ## Tools -/

/-- The request that the members of an object make. -/
def requestOfMembers (get? : String → Option Json) : Except ArgumentError Request := do
  let aggregate ← optionalText (get? "aggregate_statement")
  let countOnly ← optionalFlag (get? "count_only")
  let filter ← optionalText (get? "filter_condition")
  let collection ← optionalText (get? "model_name")
  let order ← optionalText (get? "order_by")
  .ok { collection, filter, order, limit := lenientLimit (get? "limit"), aggregate, countOnly }

/-- What a list of values stands for. -/
def selectExpectation : String :=
  "struct SelectRecordsRequest"

/-- The value at a position, which must be there. -/
def itemAt (items : List Json) (position : Nat) : Except ArgumentError (Option Json) :=
  match items[position]? with
  | some item => .ok (some item)
  | none => .error (.wrongLength position (selectExpectation ++ " with 6 elements"))

/-- The request that a list of values makes: name, filter, ordering, limit, aggregate, count. Only the limit may be
    missing. -/
def requestOfItems (items : List Json) : Except ArgumentError Request := do
  let collection ← optionalText (← itemAt items 0)
  let filter ← optionalText (← itemAt items 1)
  let order ← optionalText (← itemAt items 2)
  let aggregate ← optionalText (← itemAt items 4)
  let countOnly ← optionalFlag (← itemAt items 5)
  if items.length > 6 then .error (.wrongLength items.length "fewer elements in array")
  else .ok { collection, filter, order, limit := lenientLimit items[3]?, aggregate, countOnly }

/-- The request that the arguments of a selection make. -/
def selectArguments : Json → Except ArgumentError Request
  | .object members => requestOfMembers (lookup members)
  | .array items => requestOfItems items
  | other => .error (.wrongType other selectExpectation)

/-- The name of a table to describe. -/
def tableArguments (members : List (String × Json)) : Except ArgumentError (Option String) :=
  optionalText (lookup members "table_name")

/-- The name of a model to describe. -/
def modelArguments (members : List (String × Json)) : Except ArgumentError (Option String) :=
  optionalText (lookup members "model_name")

/-- Whether a list of models is asked of the application itself. -/
def listArguments (members : List (String × Json)) : Except ArgumentError Bool :=
  match optionalFlag (lookup members "include_schema") with
  | .error e => .error e
  | .ok flag => .ok (flag.getD false)

end RecordGate.Tools
