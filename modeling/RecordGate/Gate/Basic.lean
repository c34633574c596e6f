import RecordGate.Evaluation.Invocation
import RecordGate.Evaluation.Outcome
import RecordGate.Query.Compile

/-!
# `RecordGate.Gate.Basic` — calls, and the plans they are turned into

The gate stands between callers and the application. A call either passes, and then becomes a plan with the one
invocation that answers it, or is refused, and then nothing is ever started. Which of the two happens depends on
the call alone.

## Contents
- `Gate` — the settings that all calls share.
- `Call` — what callers ask for.
- `LogRecord` — what is noted about a call.
- `Call.script` — the program text that answers a call, or the refusal.
- `Gate.answer` — the answer to a call, given what comes of the evaluation.
-/

namespace RecordGate

open Text

/-! ## Settings and calls -/

/-- The application behind the gate, and the program that evaluates texts in it. -/
structure Gate where
  root : String
  evaluator : String := "ruby"
  deriving DecidableEq, Repr

/-- What callers ask for. -/
inductive Call where
  /-- Records, or a value reduced from records. -/
  | select (request : Request)
  /-- The columns of a table. -/
  | describeTable (name : Option String)
  /-- The columns, associations and validators of a model. -/
  | describeModel (name : Option String)
  /-- All models of the application. -/
  | catalogue
  deriving DecidableEq, Repr

/-- The name of the operation that a call uses. -/
def Call.operation : Call → String
  | .select _ => "select_records"
  | .describeTable _ => "describe_table"
  | .describeModel _ => "describe_model"
  | .catalogue => "model_catalog"

/-! ## Log records -/

/-- How much a log record matters. -/
inductive Level where
  | debug
  | info
  | warn
  deriving DecidableEq, Repr

/-- The name of a level. -/
def Level.label : Level → String
  | .debug => "DEBUG"
  | .info => "INFO"
  | .warn => "WARN"

/-- A note about a call. -/
structure LogRecord where
  level : Level
  text : String
  deriving DecidableEq, Repr

/-- A log record on one line. -/
def LogRecord.line (r : LogRecord) : String :=
  r.level.label ++ ": " ++ r.text

/-! ## Plans -/

/-- What will be evaluated for a call that passes: a program text, and what the log says of its subject. -/
structure Plan where
  script : String
  subject : String
  deriving DecidableEq, Repr

/-- The kind of a query's answer, as the log names it. -/
def Query.kind (q : Query) : String :=
  if q.isScalar then "scalar" else "rows"

/-- The plan for a call, or why it is refused. -/
def Call.plan : Call → Except Refusal Plan
  | .select request =>
    match request.compile with
    | .error refusal => .error refusal
    | .ok query => .ok ⟨Script.ofQuery query, " " ++ query.entity ++ " (" ++ query.kind ++ ")"⟩
  | .describeTable name =>
    match resolve .table name with
    | .error refusal => .error refusal
    | .ok entity => .ok ⟨Script.columns entity, " " ++ entity⟩
  | .describeModel name =>
    match resolve .model name with
    | .error refusal => .error refusal
    | .ok entity => .ok ⟨Script.model entity, " " ++ entity⟩
  | .catalogue => .ok ⟨Script.catalogue, ""⟩

/-- The invocation of a plan. -/
def Gate.invocation (g : Gate) (ambient : List (String × String)) (plan : Plan) : Invocation :=
  .evaluate g.evaluator plan.script (.ofRoot g.root ambient)

/-! ## Texts of failures -/

/-- What stands before the reason when a call fails. A selection that names no collection has nothing to say there. -/
def Call.complaint : Call → String
  | .select request =>
    match request.collection with
    | none => ""
    | some name => "Error selecting records for model '" ++ trimmed name ++ "': "
  | .describeTable name => "Error describing table '" ++ trimmed (name.getD "") ++ "': "
  | .describeModel name => "Error describing model '" ++ trimmed (name.getD "") ++ "': "
  | .catalogue => "Failed to load models: "

/-- The text of a refusal. Only a selection names its collection, if there is one to name. -/
def Call.refusalText : Call → Refusal → String
  | .select _, .missingName .model => (Refusal.missingName .model).message
  | .select request, refusal => (Call.select request).complaint ++ refusal.message
  | _, refusal => refusal.message

/-- The text for an evaluator that cannot be started. -/
def Invocation.failureText (i : Invocation) (failure : Failure) : String :=
  "Failed to start evaluator '" ++ i.program ++ "' in " ++ i.directory ++ ": " ++ failure.message

/-! ## Answers -/

/-- The answer to a call: the envelope for the caller, the invocation that was started, and the notes taken. -/
structure Answer where
  envelope : Envelope
  invocation : Option Invocation
  logs : List LogRecord
  deriving DecidableEq, Repr

/-- The answer to a refused call. -/
def Call.refused (call : Call) (refusal : Refusal) : Answer where
  envelope := .failure (call.refusalText refusal)
  invocation := none
  logs := [⟨.debug, call.operation ++ " rejected before execution: " ++ refusal.message⟩]

/-- What is noted when an invocation has been tried. -/
def Invocation.replyLogs (i : Invocation) : Reply → List LogRecord
  | .error failure =>
    [⟨.warn, "failed to spawn '" ++ i.program ++ "' in " ++ i.directory ++ ": " ++ failure.message⟩]
  | .ok outcome => if outcome.success then [] else [⟨.info, "evaluator '" ++ i.program ++ "' exited with failure"⟩]

/-- The envelope for what comes of an invocation. -/
def Call.replyEnvelope (call : Call) (i : Invocation) : Reply → Envelope
  | .error failure => .failure (call.complaint ++ i.failureText failure)
  | .ok outcome => .ofOutcome outcome

/-- The answer to a call that passed, given what came of its invocation. -/
def Gate.concluded (g : Gate) (call : Call) (plan : Plan) (i : Invocation) (reply : Reply) : Answer where
  envelope := call.replyEnvelope i reply
  invocation := some i
  logs := ⟨.debug, call.operation ++ plan.subject ++ " in " ++ g.root⟩ :: i.replyLogs reply

/-- The answer to a call, given what comes of the evaluation if there is one. -/
def Gate.answer (g : Gate) (ambient : List (String × String)) (call : Call) (reply : Reply) : Answer :=
  match call.plan with
  | .error refusal => call.refused refusal
  | .ok plan => g.concluded call plan (g.invocation ambient plan) reply

end RecordGate
