import RecordGate.Gate.Session
import RecordGate.Settings.Basic
import RecordGate.Tools.Arguments
import RecordGate.Tools.Catalogue
import RecordGate.Tools.Models

/-!
# `RecordGate.Tools.Service` — calls of tools

A call of a tool reads its arguments and then either asks the gate, or lists the model files of the application. What
can go wrong once the arguments are read is part of the result: the result then says that it is an error, and the
text says why.

## Contents
- `Listing`, `Surroundings` — what a service finds around it: directories, variables and evaluators.
- `Task`, `Tool.task` — what the arguments of a tool ask for.
- `ToolResult`, `Settings.perform` — what a client gets.
-/

namespace RecordGate

open Files

/-- What comes of reading a directory: its entries one after the other, each of which may turn out to be unreadable,
    unless the directory cannot be opened at all. -/
abbrev Listing := Except Failure (List (Except Failure (FileName × Node)))

/-- What a service finds around it; `σ` is what evaluators may change. -/
structure Surroundings (σ : Type) where
  /-- The variables that evaluators inherit. -/
  ambient : List (String × String)
  /-- Starts evaluators. -/
  start : Runner σ
  /-- Reads a directory. -/
  readDirectory : σ → String → Listing

/-! ## Tasks -/

/-- What a tool is asked to do. -/
inductive Task where
  /-- A call that goes through the gate. -/
  | ask (call : Call)
  /-- A listing of the model files. -/
  | list
  deriving DecidableEq, Repr

/-- The task that the arguments of a tool give. -/
def Tool.task (tool : Tool) (members : List (String × Json)) : Except Tools.ArgumentError Task :=
  match tool with
  | .describeModel => (Tools.modelArguments members).map fun name => .ask (.describeModel name)
  | .describeTable => (Tools.tableArguments members).map fun name => .ask (.describeTable name)
  | .listModels =>
    (Tools.listArguments members).map fun (includeSchema : Bool) => if includeSchema then .ask .catalogue else .list
  | .selectRecords => (Tools.selectArguments (.object members)).map fun request => .ask (.select request)

/-! ## Results -/

/-- What a client gets from a tool. -/
structure ToolResult where
  text : String
  isError : Bool
  deriving DecidableEq, Repr

/-- The result that an envelope holds. -/
def ToolResult.ofEnvelope (e : Envelope) : ToolResult :=
  ⟨e.text, !e.success⟩

/-- The result of listing a directory. The first entry that cannot be read ends it. -/
def ToolResult.ofListing (directory : String) : Listing → ToolResult
  | .error failure => ⟨Tools.unreadable directory failure, true⟩
  | .ok listed =>
    match listed.mapM id with
    | .error failure => ⟨Tools.unreadableEntry failure, true⟩
    | .ok entries => ⟨Tools.modelListing directory (Tools.modelFiles entries), false⟩

/-- A result as a client reads it. -/
def ToolResult.json (r : ToolResult) : Json :=
  .object [("content", .array [.object [("type", .string "text"), ("text", .string r.text)]]),
    ("isError", .bool r.isError)]

/-! ## Services -/

/-- The result of a task, and what it leaves. -/
def Settings.perform {σ : Type} (s : Settings) (around : Surroundings σ) (task : Task) (state : σ) :
    ToolResult × σ :=
  match task with
  | .list => (.ofListing s.modelsDirectory (around.readDirectory state s.modelsDirectory), state)
  | .ask call =>
    let (answer, state) := s.gate.perform around.ambient around.start call state
    (.ofEnvelope answer.envelope, state)

end RecordGate
