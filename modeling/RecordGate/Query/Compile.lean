import RecordGate.Fragment.Condition
import RecordGate.Fragment.Ordering
import RecordGate.Name.Entity
import RecordGate.Query.Basic
import RecordGate.Query.Refusal

/-!
# `RecordGate.Query.Compile` — from a request to a query

The checks run in a fixed order: the name, the filter, the safety of the aggregate statement, its form. Blank
texts count as absent. An aggregate statement wins over the wish for a count, and both over a listing; a listing
drops an ordering that is none, and lifts a negative limit to zero.
-/

namespace RecordGate

open Text Fragment Name

/-! ## Names -/

/-- The entity of a named collection. -/
def resolve (subject : Subject) (name : Option String) : Except Refusal String :=
  match nonBlank? name with
  | none => .error (.missingName subject)
  | some name =>
    if isCollectionName (trimmed name) then .ok (entityName (trimmed name))
    else .error (.invalidName subject (trimmed name))

/-! ## Criteria -/

/-- The filter of the criteria, unchanged. -/
def Criteria.filter? (c : Criteria) : Except Refusal (Option String) :=
  match nonBlank? c.filter with
  | none => .ok none
  | some filter => if isSafe filter then .ok (some filter) else .error .unsafeFilter

/-- The reduction that the criteria ask for. -/
def Criteria.aggregate? (c : Criteria) : Except Refusal (Option Aggregate) :=
  match nonBlank? c.aggregate with
  | none => .ok (if c.countOnly.getD false then some .count else none)
  | some statement =>
    if isSafe statement then
      match Fragment.aggregate? statement with
      | some aggregate => .ok (some aggregate)
      | none => .error (.unsupportedAggregate (trimmed statement))
    else .error .unsafeAggregate

/-- The listing that the criteria ask for. -/
def Criteria.listing (c : Criteria) : Shape :=
  .rows ((nonBlank? c.order).bind ordering?) (c.limit.map fun n => n.toInt.toNat)

/-- The query for the records of an entity that meet the criteria. -/
def Criteria.compile (c : Criteria) (entity : String) : Except Refusal Query :=
  match c.filter? with
  | .error refusal => .error refusal
  | .ok filter =>
    match c.aggregate? with
    | .error refusal => .error refusal
    | .ok aggregate => .ok ⟨entity, filter, (aggregate.map .scalar).getD c.listing⟩

/-! ## Requests -/

/-- The entity of the requested collection. -/
def Request.entity (r : Request) : Except Refusal String :=
  resolve .model r.collection

/-- The query that answers a request. -/
def Request.compile (r : Request) : Except Refusal Query :=
  match r.entity with
  | .error refusal => .error refusal
  | .ok entity => r.toCriteria.compile entity

end RecordGate
