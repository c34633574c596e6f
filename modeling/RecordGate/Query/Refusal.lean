/-!
# `RecordGate.Query.Refusal` — why a request is refused

A request is refused before anything is evaluated, for the first reason that applies. `Refusal.message` is what the
caller reads.
-/

namespace RecordGate

/-- What a caller calls the thing it names. -/
inductive Subject where
  | model
  | table
  deriving DecidableEq, Repr

/-- The reasons to refuse a request. -/
inductive Refusal where
  /-- No name is given, or a blank one. -/
  | missingName (subject : Subject)
  /-- The name is no collection name. -/
  | invalidName (subject : Subject) (name : String)
  /-- The filter contains a refused construct. -/
  | unsafeFilter
  /-- The aggregate statement contains a refused construct. -/
  | unsafeAggregate
  /-- The aggregate statement asks for no known reduction. -/
  | unsupportedAggregate (statement : String)
  deriving DecidableEq, Repr

/-- What a name is expected to be. -/
def nameHint : String :=
  "expected snake_case letters, digits and underscores (e.g. 'blog_posts')"

/-- The text of a refusal. -/
def Refusal.message : Refusal → String
  | .missingName .model => "Model name is required"
  | .missingName .table => "Table name is required"
  | .invalidName .model name => "Invalid model name '" ++ name ++ "': " ++ nameHint
  | .invalidName .table name => "Invalid table name '" ++ name ++ "': " ++ nameHint
  | .unsafeFilter => "Filter condition rejected: it contains a disallowed SQL construct"
  | .unsafeAggregate => "Aggregate statement rejected: it contains a disallowed SQL construct"
  | .unsupportedAggregate statement =>
    "Unsupported aggregate statement '" ++ statement ++
      "' (expected count, count(col), sum(col), average(col), minimum(col) or maximum(col))"

end RecordGate
