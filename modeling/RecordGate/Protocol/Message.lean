import RecordGate.Protocol.Form

/-!
# `RecordGate.Protocol.Message` — what clients send

A message has a method and perhaps parameters. A request waits for a response, a notification does not. The server
knows some methods with the forms of their parameters, and has to be able to read every message: one that it cannot
read ends the session. Notifications of methods that no side of the protocol knows are passed over instead.

## Contents
- `Message` — a message as it arrives.
- `Demand`, `Demand.read?` — the requests that the server knows.
- `Notice`, `Notice.read?` — what a notification means to the server.
-/

namespace RecordGate.Protocol

/-- A message of a client. -/
structure Message where
  method : String
  params : Option Json := none
  /-- Whether the client waits for a response. -/
  expectsResponse : Bool := true

/-! ## Requests -/

/-- Lists of which this server has nothing to show. -/
inductive Offer where
  | resources
  | resourceTemplates
  | prompts
  deriving DecidableEq, Repr

/-- The member that holds a list. -/
def Offer.member : Offer → String
  | .resources => "resources"
  | .resourceTemplates => "resourceTemplates"
  | .prompts => "prompts"

/-- A request that the server knows. -/
inductive Demand where
  /-- To begin a session in a version of the protocol. -/
  | start (version : String)
  /-- To give a sign of life. -/
  | ping
  /-- To announce the tools. -/
  | listTools
  /-- To call a tool. -/
  | callTool (name : String) (arguments : List (String × Json))
  /-- To list what is not offered. -/
  | list (offer : Offer)
  /-- To complete a text that is being entered. -/
  | complete
  /-- To do what is not supported. -/
  | unsupported (method : String)

/-- The form of a method's parameters if they have these members, among others. -/
def required (members : List (String × Form)) : Form :=
  .object (("_meta", .optional (.object [])) :: members)

/-- The form of the parameters of a list. A page may be asked for in any words, since there is only one. -/
def pageForm : Form :=
  .optional (required [])

/-- The form of the parameters that name a resource. -/
def resourceForm : Form :=
  required [("uri", .text)]

/-- The form of what a client says it can do. -/
def capabilitiesForm : Form :=
  .record [("experimental", .optional (.table (.object []))),
    ("roots", .optional (.record [("listChanged", .optional .flag)])),
    ("sampling", .optional (.object [])),
    ("elicitation", .optional (.record [("schemaValidation", .optional .flag)]))]

/-- The form of a picture that stands for a client. -/
def iconForm : Form :=
  .record [("src", .text), ("mimeType", .optional .text), ("sizes", .optional (.list .text))]

/-- The form of what a client says of itself. -/
def clientForm : Form :=
  .record [("name", .text), ("title", .optional .text), ("version", .text), ("icons", .optional (.list iconForm)),
    ("websiteUrl", .optional .text)]

/-- The form of the parameters that begin a session. -/
def startForm : Form :=
  required [("protocolVersion", .text), ("capabilities", capabilitiesForm), ("clientInfo", clientForm)]

/-- The form of what a completion refers to. -/
def referenceForm : Form :=
  .oneOf "type" [("ref/resource", .record [("uri", .text)]),
    ("ref/prompt", .record [("name", .text), ("title", .optional .text)])]

/-- The form of the parameters that ask for a completion. -/
def completionForm : Form :=
  required [("ref", referenceForm), ("argument", .record [("name", .text), ("value", .text)]),
    ("context", .optional (.record [("arguments", .optional (.table .text))]))]

/-- The levels of a log that a client may ask for. -/
def logLevels : List String :=
  ["debug", "info", "notice", "warning", "error", "critical", "alert", "emergency"]

/-- The methods that clients may request, with the forms of their parameters. -/
def requestForms : List (String × Option Form) :=
  [("initialize", some startForm),
    ("ping", none),
    ("tools/list", some pageForm),
    ("tools/call", some (required [("name", .text), ("arguments", .optional (.object []))])),
    ("resources/list", some pageForm),
    ("resources/templates/list", some pageForm),
    ("prompts/list", some pageForm),
    ("resources/read", some resourceForm),
    ("resources/subscribe", some resourceForm),
    ("resources/unsubscribe", some resourceForm),
    ("prompts/get", some (required [("name", .text), ("arguments", .optional (.object []))])),
    ("logging/setLevel", some (required [("level", .word logLevels)])),
    ("completion/complete", some completionForm)]

/-- Whether parameters have a form, where one is asked for. -/
def wellFormed (form : Option Form) (params : Option Json) : Bool :=
  form.all fun form => form.admits params

/-- A member of the parameters. -/
def Message.param? (m : Message) (name : String) : Option Json :=
  m.params.bind fun params => params.get? name

/-- A text among the parameters. -/
def Message.text (m : Message) (name : String) : String :=
  ((m.param? name).bind Json.string?).getD ""

/-- The request of a known method. -/
def Demand.ofMessage (m : Message) : Demand :=
  match m.method with
  | "initialize" => .start (m.text "protocolVersion")
  | "ping" => .ping
  | "tools/list" => .listTools
  | "tools/call" => .callTool (m.text "name") (((m.param? "arguments").bind Json.members?).getD [])
  | "resources/list" => .list .resources
  | "resources/templates/list" => .list .resourceTemplates
  | "prompts/list" => .list .prompts
  | "completion/complete" => .complete
  | method => .unsupported method

/-- The request that a message makes, if it can be read. -/
def Demand.read? (m : Message) : Option Demand :=
  match requestForms.lookup m.method with
  | none => none
  | some form => if wellFormed form m.params then some (.ofMessage m) else none

/-! ## Notifications -/

/-- What a notification means to the server. -/
inductive Notice where
  /-- The client is ready. -/
  | initialized
  /-- Something that needs no action. -/
  | news
  /-- A method that the protocol does not know. -/
  | unknown
  deriving DecidableEq, Repr

/-- The notifications of clients, with the forms of their parameters. -/
def noticeForms : List (String × Option Form) :=
  [("notifications/initialized", none),
    ("notifications/roots/list_changed", none),
    ("notifications/cancelled", some (required [("requestId", .token), ("reason", .optional .text)])),
    ("notifications/progress", some (required [("progressToken", .token), ("progress", .number),
      ("total", .optional .number), ("message", .optional .text)]))]

/-- The methods by which servers turn to clients. -/
def serverMethods : List String :=
  ["roots/list", "sampling/createMessage", "notifications/message", "notifications/prompts/list_changed",
    "notifications/resources/list_changed", "notifications/resources/updated", "notifications/tools/list_changed"]

/-- What a notification means, if it can be read. -/
def Notice.read? (m : Message) : Option Notice :=
  match noticeForms.lookup m.method with
  | some form =>
    if wellFormed form m.params then
      some (if m.method == "notifications/initialized" then .initialized else .news)
    else none
  | none => if (requestForms.lookup m.method).isSome || serverMethods.contains m.method then none else some .unknown

end RecordGate.Protocol
