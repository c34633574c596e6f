import RecordGate.Proofs.Tools.Arguments
import RecordGate.Protocol.Session

/-!
# `RecordGate.Proofs.Protocol.ToolCalls` — calls of tools are calls of the gate

A client that calls a tool in a running session, with arguments that can be read, gets the answer of the gate to the
call that its arguments make: the text of the envelope, marked as an error exactly if the envelope is a failure. The
protocol's own errors are never used for it, whatever goes wrong behind the gate. Only the listing of model files
passes the gate by: it fails if the directory cannot be listed, and starts nothing (`toolsRefineGate`).
-/

namespace RecordGate.Protocol

open Tools Json

/-! ## Calls, and what a client sees of them -/

/-- The message calls the tool with these arguments. -/
def Calls (m : Message) (tool : Tool) (members : List (String × Json)) : Prop :=
  m.expectsResponse = true ∧ Demand.read? m = some (.callTool tool.name members)

/-- The value is a tool result with one text, and says whether that tells of an error. -/
structure HoldsText (value : Json) (text : String) (isError : Bool) : Prop where
  content : value.get? "content" = some (.array [.object [("type", .string "text"), ("text", .string text)]])
  isError : value.get? "isError" = some (.bool isError)

section

variable {σ : Type} (s : Settings) (around : Surroundings σ) (m : Message) (state : σ)

/-- The message is responded to with a tool result, not with an error of the protocol, and the session goes on. -/
def ShowsText (text : String) (isError : Bool) (after : σ) : Prop :=
  ∃ value, receive s around .running m state = (.response (.result value), .running, after) ∧
    HoldsText value text isError

/-- The message is responded to as the gate answers the call: with the text of the envelope, which is an error unless
    the envelope is a success. -/
def ShowsAnswer (call : Call) : Prop :=
  ShowsText s around m state (s.gate.perform around.ambient around.start call state).1.envelope.text
    (!(s.gate.perform around.ambient around.start call state).1.envelope.success)
    (s.gate.perform around.ambient around.start call state).2

end

/-- A directory cannot be listed if it cannot be opened, or if one of its entries cannot be read. -/
def Unlistable : Listing → Prop
  | .error _ => True
  | .ok listed => ∃ failure, .error failure ∈ listed

/-! ## Listings -/

section

variable {α : Type} {listed : List (Except Failure α)}

theorem mapM_id_ok_cons (a : α) : (.ok a :: listed).mapM id = listed.mapM id >>= fun as => .ok (a :: as) := by
  rw [List.mapM_cons]
  rfl

/-- What stops a listing is one of its failures. -/
theorem mem_of_mapM_id_eq_error {failure : Failure} (h : listed.mapM id = .error failure) :
    .error failure ∈ listed := by
  induction listed with
  | nil => exact absurd h (by simp [pure, Except.pure])
  | cons entry listed ih =>
    cases entry with
    | error e =>
      obtain rfl : e = failure := Except.error.inj h
      exact List.mem_cons_self
    | ok a =>
      rw [mapM_id_ok_cons] at h
      cases hl : listed.mapM id with
      | error e =>
        rw [hl] at h
        obtain rfl : e = failure := Except.error.inj h
        exact List.mem_cons_of_mem _ (ih hl)
      | ok as =>
        rw [hl] at h
        exact absurd h (by simp [bind, Except.bind])

/-- A listing that is taken in full has no failure in it. -/
theorem not_mem_of_mapM_id_eq_ok {as : List α} (h : listed.mapM id = .ok as) (failure : Failure) :
    .error failure ∉ listed := by
  induction listed generalizing as with
  | nil => exact List.not_mem_nil
  | cons entry listed ih =>
    cases entry with
    | error e =>
      have hend : (Except.error e : Except Failure (List α)) = .ok as := h
      exact absurd hend (by simp)
    | ok a =>
      rw [mapM_id_ok_cons, bind_eq_ok_iff] at h
      obtain ⟨as', hl, -⟩ := h
      intro hmem
      rcases List.mem_cons.mp hmem with he | hmem
      · exact absurd he (by simp)
      · exact ih hl hmem

end

/-- The result of a listing is an error exactly if the directory cannot be read, or one of its entries cannot. -/
theorem isError_ofListing_iff {directory : String} {listing : Listing} :
    (ToolResult.ofListing directory listing).isError = true ↔ Unlistable listing := by
  cases listing with
  | error failure => exact ⟨fun _ => trivial, fun _ => rfl⟩
  | ok listed =>
    simp only [ToolResult.ofListing, Unlistable]
    cases hl : listed.mapM id with
    | error failure => exact ⟨fun _ => ⟨failure, mem_of_mapM_id_eq_error hl⟩, fun _ => rfl⟩
    | ok entries =>
      constructor
      · intro h
        exact absurd h (by simp)
      · rintro ⟨failure, hmem⟩
        exact absurd hmem (not_mem_of_mapM_id_eq_ok hl failure)

/-! ## One message -/

/-- Every tool result is written with one text item and its error flag. -/
theorem holdsText_json (r : ToolResult) : HoldsText r.json r.text r.isError :=
  ⟨rfl, rfl⟩

/-- The message that calls a tool with these arguments, as clients write it. -/
def toolCall (tool : Tool) (members : List (String × Json)) : Message where
  method := "tools/call"
  params := some (.object [("name", .string tool.name), ("arguments", .object members)])

/-- The request that names the tool and gives the members as its arguments is a call of the tool. -/
theorem calls_toolCall (tool : Tool) (members : List (String × Json)) : Calls (toolCall tool members) tool members :=
  ⟨rfl, rfl⟩

section

variable {σ : Type} {s : Settings} {around : Surroundings σ} {m : Message} {state : σ} {tool : Tool}
  {members : List (String × Json)}

/-- Where the arguments are read, the response is the result of the task they stand for. -/
theorem respondToCall_of_task {task : Task} (htask : tool.task members = .ok task) :
    respondToCall s around tool.name members state =
      (.result (s.perform around task state).1.json, (s.perform around task state).2) := by
  unfold respondToCall
  rw [Tool.ofName?_name]
  simp only [htask]

/-- **A call whose arguments can be read is responded to with the result of its task.** -/
theorem receive_of_calls {task : Task} (hm : Calls m tool members) (htask : tool.task members = .ok task) :
    receive s around .running m state =
      (.response (.result (s.perform around task state).1.json), .running, (s.perform around task state).2) := by
  unfold receive
  rw [if_pos hm.1, hm.2]
  simp only [answerDemand, respond, respondToCall_of_task htask]

/-- A call whose arguments are read shows the text of the task's result. -/
theorem showsText_of_calls {task : Task} (hm : Calls m tool members) (htask : tool.task members = .ok task) :
    ShowsText s around m state (s.perform around task state).1.text (s.perform around task state).1.isError
      (s.perform around task state).2 :=
  ⟨_, receive_of_calls hm htask, holdsText_json _⟩

/-- A call that asks the gate shows the envelope of the gate's answer. -/
theorem showsAnswer_of_calls {call : Call} (hm : Calls m tool members) (htask : tool.task members = .ok (.ask call)) :
    ShowsAnswer s around m state call :=
  showsText_of_calls hm htask

end

/-! ## Tools -/

/-- **The tools refine the gate.** In a running session with these settings and surroundings, in any state: -/
structure ToolsRefineGate {σ : Type} (s : Settings) (around : Surroundings σ) (state : σ) : Prop where
  /-- Every tool can be called with any arguments. -/
  callable : ∀ (tool : Tool) (members : List (String × Json)), ∃ m, Calls m tool members
  /-- Arguments that can be read lead to a result with one text, never to an error of the protocol. -/
  result : ∀ (m : Message) (tool : Tool) (members : List (String × Json)) (task : Task), Calls m tool members →
    tool.task members = .ok task → ∃ text isError after, ShowsText s around m state text isError after
  /-- A selection is the gate's, with the fields of the request read from the arguments. -/
  select : ∀ (m : Message) (members : List (String × Json)) (request : Request), Calls m .selectRecords members →
    selectArguments (.object members) = .ok request →
      ReadFrom (lookup members) request ∧ ShowsAnswer s around m state (.select request)
  /-- A description of a table is the gate's, with the name read from the arguments. -/
  describeTable : ∀ (m : Message) (members : List (String × Json)) (name : Option String),
    Calls m .describeTable members → tableArguments members = .ok name →
      Member .string (lookup members "table_name") name ∧ ShowsAnswer s around m state (.describeTable name)
  /-- A description of a model is the gate's, with the name read from the arguments. -/
  describeModel : ∀ (m : Message) (members : List (String × Json)) (name : Option String),
    Calls m .describeModel members → modelArguments members = .ok name →
      Member .string (lookup members "model_name") name ∧ ShowsAnswer s around m state (.describeModel name)
  /-- A list of models that is to include what the application knows is the gate's catalogue. -/
  catalogue : ∀ (m : Message) (members : List (String × Json)), Calls m .listModels members →
    lookup members "include_schema" = some (.bool true) → ShowsAnswer s around m state .catalogue
  /-- Any other list of models is an error exactly if the directory of the models cannot be listed. No evaluator is
      started for it: what evaluators may change stays as it is, and it would be the same with any others. -/
  listing : ∀ (m : Message) (members : List (String × Json)), Calls m .listModels members →
    listArguments members = .ok false →
      (∃ text isError, ShowsText s around m state text isError state ∧
        (isError = true ↔ Unlistable (around.readDirectory state s.modelsDirectory))) ∧
      ∀ start : Runner σ, receive s { around with start } .running m state = receive s around .running m state

/-- **The tools refine the gate**, whatever stands around the service. -/
theorem toolsRefineGate {σ : Type} (s : Settings) (around : Surroundings σ) (state : σ) :
    ToolsRefineGate s around state where
  callable := fun tool members => ⟨toolCall tool members, calls_toolCall tool members⟩
  result := fun _ _ _ _ hm htask => ⟨_, _, _, showsText_of_calls hm htask⟩
  select := by
    intro m members request hm hrequest
    refine ⟨selectArguments_eq_ok_iff.mp hrequest, showsAnswer_of_calls hm ?_⟩
    simp only [Tool.task, hrequest, Except.map]
  describeTable := by
    intro m members name hm hname
    refine ⟨tableArguments_eq_ok_iff.mp hname, showsAnswer_of_calls hm ?_⟩
    simp only [Tool.task, hname, Except.map]
  describeModel := by
    intro m members name hm hname
    refine ⟨modelArguments_eq_ok_iff.mp hname, showsAnswer_of_calls hm ?_⟩
    simp only [Tool.task, hname, Except.map]
  catalogue := by
    intro m members hm hflag
    have hread : listArguments members = .ok true :=
      listArguments_eq_ok_iff.mpr ⟨some true, hflag ▸ .value true, rfl⟩
    refine showsAnswer_of_calls hm ?_
    simp only [Tool.task, hread, Except.map, if_true]
  listing := by
    intro m members hm hread
    have htask : Tool.listModels.task members = .ok .list := by
      simp only [Tool.task, hread, Except.map]
      rfl
    refine ⟨⟨_, _, showsText_of_calls hm htask, isError_ofListing_iff⟩, ?_⟩
    intro start
    rw [receive_of_calls hm htask, receive_of_calls hm htask]
    rfl

end RecordGate.Protocol
