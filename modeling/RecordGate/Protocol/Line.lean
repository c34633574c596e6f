import RecordGate.Json.Parser
import RecordGate.Json.Printer
import RecordGate.Protocol.Session

/-!
# `RecordGate.Protocol.Line` — messages on lines

Every message and every response is a JSON object on a line of its own. A message names the version of the format
and its method; one that waits for a response has an identifier, which the response repeats. A line that is no
message ends the session.

## Contents
- `Envelope`, `envelope?` — a message with its identifier.
- `responseLine` — a response.
- `exchange` — what a session writes for a line that it reads.
-/

namespace RecordGate.Protocol

/-- A message, and the identifier that its response repeats. -/
structure Envelope where
  message : Message
  identifier : Json

/-- The version of the format. -/
def formatVersion : String :=
  "2.0"

/-- The message that an object holds. -/
def envelope? (value : Json) : Option Envelope :=
  match (value.get? "jsonrpc").bind Json.string?, (value.get? "method").bind Json.string? with
  | some version, some method =>
    if version == formatVersion then
      let identifier := value.get? "id"
      some ⟨{ method, params := value.get? "params", expectsResponse := identifier.isSome }, identifier.getD .null⟩
    else none
  | _, _ => none

/-- A response as an object, which repeats an identifier. -/
def Response.json (identifier : Json) : Response → Json
  | .result value => .object [("jsonrpc", .string formatVersion), ("id", identifier), ("result", value)]
  | .error code message =>
    .object [("jsonrpc", .string formatVersion), ("id", identifier),
      ("error", .object [("code", .int code), ("message", .string message)])]

/-- What a session writes for a line that it reads, the phase after it, and what it leaves. -/
def exchange {σ : Type} (s : Settings) (around : Surroundings σ) (phase : Phase) (line : String) (state : σ) :
    Option String × Phase × σ :=
  match (Json.parse? line).bind envelope? with
  | none => (none, phase.finished, state)
  | some e =>
    match receive s around phase e.message state with
    | (.response r, phase, state) => (some (r.json e.identifier).compact, phase, state)
    | (_, phase, state) => (none, phase, state)

end RecordGate.Protocol
