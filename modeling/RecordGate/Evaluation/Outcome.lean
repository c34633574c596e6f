import RecordGate.Evaluation.Failure

/-!
# `RecordGate.Evaluation.Outcome` — what came of an evaluation

An outcome is what an evaluator left when it ended. An envelope is what a caller gets: the output of an evaluator that
succeeded, the errors of one that did not, or a diagnostic.
-/

namespace RecordGate

/-- What an evaluator wrote, and whether it succeeded. -/
structure Outcome where
  output : String
  errors : String
  success : Bool
  deriving DecidableEq, Repr

/-- Success with this output, and no errors. -/
def Outcome.succeeded (output : String) : Outcome :=
  ⟨output, "", true⟩

/-- Failure with these errors, and no output. -/
def Outcome.failed (errors : String) : Outcome :=
  ⟨"", errors, false⟩

/-- What a caller gets. -/
structure Envelope where
  success : Bool
  text : String
  deriving DecidableEq, Repr

/-- The envelope of a diagnostic. -/
def Envelope.failure (text : String) : Envelope :=
  ⟨false, text⟩

/-- The output of a success, the errors of a failure. -/
def Envelope.ofOutcome (o : Outcome) : Envelope :=
  ⟨o.success, if o.success then o.output else o.errors⟩

/-- What comes of starting an evaluator. -/
abbrev Reply := Except Failure Outcome

end RecordGate
