import RecordGate.Query.Basic

/-!
# `RecordGate.Query.Expression` — a query as a chain of method calls

The entity's constant, then one call for each part of the query in a fixed order. Texts are written as literals in
double quotation marks; a backslash before every quotation mark, hash and backslash keeps a literal from being
closed early and from interpolating.
-/

namespace RecordGate

open Fragment

/-- A character as it stands inside a literal. -/
def escaped (c : Char) : List Char :=
  if c == '"' || c == '#' || c == '\\' then ['\\', c] else [c]

/-- A text as a literal in double quotation marks. -/
def literal (s : String) : String :=
  String.ofList ('"' :: s.toList.flatMap escaped ++ ['"'])

/-- The call that reduces records to one value, without the dot before it. -/
def Fragment.Aggregate.call : Aggregate → String
  | .count => "count"
  | .column function name => function.method ++ "(" ++ literal name ++ ")"

/-- The call of `method` on a literal, if there is a text. -/
def clause (method : String) : Option String → String
  | none => ""
  | some text => "." ++ method ++ "(" ++ literal text ++ ")"

/-- The call that limits a listing, if there is a limit. -/
def limitClause : Option Nat → String
  | none => ""
  | some n => ".limit(" ++ Nat.repr n ++ ")"

/-- The calls that bring a query into its form. -/
def Shape.calls : Shape → String
  | .rows order limit => clause "order" order ++ limitClause limit
  | .scalar aggregate => "." ++ aggregate.call

/-- A query as a chain of method calls. -/
def Query.expression (q : Query) : String :=
  q.entity ++ ".all" ++ clause "where" q.filter ++ q.shape.calls

end RecordGate
