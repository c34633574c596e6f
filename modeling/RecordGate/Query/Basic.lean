import RecordGate.Fragment.Aggregate

/-!
# `RecordGate.Query.Basic` — requests and queries

A request is what a caller asks for, in texts that nobody has looked at. A query is what will be evaluated: an entity,
an optional filter, and either a listing of rows or one value. Only a listing has an ordering and a limit.
-/

namespace RecordGate

open Fragment

/-- What records a caller wants, and in which form. -/
structure Criteria where
  filter : Option String := none
  order : Option String := none
  limit : Option Int64 := none
  aggregate : Option String := none
  countOnly : Option Bool := none
  deriving DecidableEq, Repr

/-- Criteria on the records of a collection. -/
structure Request extends Criteria where
  collection : Option String := none
  deriving DecidableEq, Repr

/-- The request for all records of a collection. -/
def Request.all (collection : String) : Request :=
  { collection := some collection }

/-- The form of an answer. -/
inductive Shape where
  /-- The records themselves, in some order and up to some number. -/
  | rows (order : Option String) (limit : Option Nat)
  /-- One value. -/
  | scalar (aggregate : Aggregate)
  deriving DecidableEq, Repr

/-- What is evaluated. -/
structure Query where
  entity : String
  filter : Option String
  shape : Shape
  deriving DecidableEq, Repr

/-- Whether a query gives one value. -/
def Query.isScalar (q : Query) : Bool :=
  match q.shape with
  | .rows .. => false
  | .scalar _ => true

end RecordGate
