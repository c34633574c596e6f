import RecordGate.Protocol.Message
import RecordGate.Tools.Service

/-!
# `RecordGate.Protocol.Session` — a conversation with one client

A session begins with a handshake: the client asks to begin, the server answers, the client says that it is ready.
From then on every request is answered, until a message comes that cannot be read. A session that has ended stays
ended.

## Contents
- `Response`, `Event` — what a client sees of a message.
- `Phase` — how far a session is.
- `respond` — the response to a request of a running session.
- `receive` — one message.
- `converse` — many messages, up to the end of the session.
-/

namespace RecordGate.Protocol

/-- What a request is answered with. -/
inductive Response where
  | result (value : Json)
  | error (code : Int) (message : String)

/-- What a client sees of a message that it sent. -/
inductive Event where
  /-- A response. -/
  | response (response : Response)
  /-- Nothing, and nothing was to be seen. -/
  | notified
  /-- The end of the session in place of a response. -/
  | closed

/-- How far a session is. -/
inductive Phase where
  /-- Nothing has been said. -/
  | fresh
  /-- The server has answered, and the client has not said that it is ready. -/
  | introduced
  /-- Requests are answered. -/
  | running
  /-- The session has ended; `began` tells whether it ever was running. -/
  | ended (began : Bool)
  deriving DecidableEq, Repr

/-- Whether the handshake of a session was completed. -/
def Phase.began : Phase → Bool
  | .fresh | .introduced => false
  | .running => true
  | .ended began => began

/-! ## Responses -/

/-- The newest version of the protocol that the server speaks. -/
def newestVersion : String :=
  "2025-03-26"

/-- The version that a session is held in: the older one of what the client asks for and what the server speaks. -/
def agreedVersion (asked : String) : String :=
  if asked < newestVersion then asked else newestVersion

/-- How the server introduces itself. -/
def introduction (version : String) : Json :=
  .object [("protocolVersion", .string version), ("capabilities", .object [("tools", .object [])]),
    ("serverInfo", .object [("name", .string "rmcp"), ("version", .string "0.8.5")]),
    ("instructions", .string ("Record Bridge answers read-only questions about an application's data. " ++
      "Use 'list_models' to see what exists, 'describe_table' or 'describe_model' to learn a table's columns " ++
      "and a model's associations, and 'select_records' to fetch rows, counts or aggregates."))]

/-- The code of an error about parameters. -/
def invalidParams : Int :=
  -32602

/-- The code of an error about a method. -/
def methodNotFound : Int :=
  -32601

/-- The response to a call of a tool, and what it leaves. -/
def respondToCall {σ : Type} (s : Settings) (around : Surroundings σ) (name : String)
    (arguments : List (String × Json)) (state : σ) : Response × σ :=
  match Tool.ofName? name with
  | none => (.error invalidParams "tool not found", state)
  | some tool =>
    match tool.task arguments with
    | .error e => (.error invalidParams ("failed to deserialize parameters: " ++ e.message), state)
    | .ok task =>
      let (result, state) := s.perform around task state
      (.result result.json, state)

/-- The response to a request of a running session, and what it leaves. The version is not agreed upon again. -/
def respond {σ : Type} (s : Settings) (around : Surroundings σ) (demand : Demand) (state : σ) : Response × σ :=
  match demand with
  | .start _ => (.result (introduction newestVersion), state)
  | .ping => (.result (.object []), state)
  | .listTools => (.result (.object [("tools", .array (Tool.all.map Tool.announcement))]), state)
  | .callTool name arguments => respondToCall s around name arguments state
  | .list offer => (.result (.object [(offer.member, .array [])]), state)
  | .complete => (.result (.object [("completion", .object [("values", .array [])])]), state)
  | .unsupported method => (.error methodNotFound method, state)

/-! ## Messages -/

/-- The phase after a session has ended in this one. -/
def Phase.finished (phase : Phase) : Phase :=
  .ended phase.began

/-- The phase after a notification. -/
def Phase.afterNotice (phase : Phase) : Option Notice → Phase
  | none => phase.finished
  | some .unknown => phase
  | some .initialized =>
    match phase with
    | .introduced | .running => .running
    | _ => phase.finished
  | some .news =>
    match phase with
    | .running => .running
    | _ => phase.finished

/-- A request: what the client sees of it, the phase after it, and what it leaves. -/
def answerDemand {σ : Type} (s : Settings) (around : Surroundings σ) (phase : Phase) (demand : Demand) (state : σ) :
    Event × Phase × σ :=
  match phase, demand with
  | .fresh, .start version => (.response (.result (introduction (agreedVersion version))), .introduced, state)
  | .running, demand =>
    let (response, state) := respond s around demand state
    (.response response, .running, state)
  | phase, _ => (.closed, phase.finished, state)

/-- One message: what the client sees of it, the phase after it, and what it leaves. -/
def receive {σ : Type} (s : Settings) (around : Surroundings σ) (phase : Phase) (m : Message) (state : σ) :
    Event × Phase × σ :=
  if m.expectsResponse then
    match Demand.read? m with
    | none => (.closed, phase.finished, state)
    | some demand => answerDemand s around phase demand state
  else (.notified, phase.afterNotice (Notice.read? m), state)

/-- Many messages, of which those after the end of the session are not sent. -/
def converse {σ : Type} (s : Settings) (around : Surroundings σ) (phase : Phase) (messages : List Message)
    (state : σ) : List Event × Phase × σ :=
  match messages with
  | [] => ([], phase, state)
  | m :: rest =>
    match receive s around phase m state with
    | (.closed, phase, state) => ([.closed], phase, state)
    | (event, phase, state) =>
      let (events, phase, state) := converse s around phase rest state
      (event :: events, phase, state)

end RecordGate.Protocol
