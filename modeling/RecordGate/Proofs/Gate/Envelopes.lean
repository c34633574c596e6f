import RecordGate.Proofs.Gate.Sandbox
import RecordGate.Proofs.Query.Refusal

/-!
# `RecordGate.Proofs.Gate.Envelopes` — what callers are told

A call ends in one of four ways: it is refused, its evaluator cannot be started, or its evaluator runs and succeeds or
fails. The envelope tells them apart (`reports_perform`). Output and errors are passed on as they are; a start that
fails is told with the name of what the call is about in front; of the refused calls only a selection puts the name of
its collection in front, and it always does when there is one to name.

A selection has no words in front of a reason when it names no collection (`Call.complaint`). No call gets there: one
without a name is refused for the missing name, and that reason stands alone (`announces_complaint`,
`text_of_compile_error`).
-/

namespace RecordGate

open Text Name

/-! ## Replies -/

section

variable {σ : Type} (g : Gate) (ambient : List (String × String)) (run : Runner σ) (call : Call) (s : σ)

/-- The call gets this reply: its one invocation comes to it. -/
def Gate.Gets (reply : Reply) : Prop :=
  ∃ i : Invocation, g.Hands ambient call i ∧ (run i s).1 = reply

/-- The envelope of the call. -/
def Gate.envelope : Envelope :=
  (g.perform ambient run call s).1.envelope

end

/-! ## Words in front of a reason -/

/-- **The words in front of the reason** why an evaluator has not been started for a call. -/
inductive Announces : Call → String → Prop where
  | select {request : Request} {n : String} (h : request.collection = some n) :
      Announces (.select request) ("Error selecting records for model '" ++ trimmed n ++ "': ")
  | describeTable (n : String) :
      Announces (.describeTable (some n)) ("Error describing table '" ++ trimmed n ++ "': ")
  | describeModel (n : String) :
      Announces (.describeModel (some n)) ("Error describing model '" ++ trimmed n ++ "': ")
  | catalogue : Announces .catalogue "Failed to load models: "

/-! ## Reasons -/

/-- **The reason that callers read** when a call is refused. -/
inductive Explains : Refusal → String → Prop where
  | noModel : Explains (.missingName .model) "Model name is required"
  | noTable : Explains (.missingName .table) "Table name is required"
  | modelName (name : String) : Explains (.invalidName .model name) ("Invalid model name '" ++ name ++ "': " ++
      "expected snake_case letters, digits and underscores (e.g. 'blog_posts')")
  | tableName (name : String) : Explains (.invalidName .table name) ("Invalid table name '" ++ name ++ "': " ++
      "expected snake_case letters, digits and underscores (e.g. 'blog_posts')")
  | filter : Explains .unsafeFilter "Filter condition rejected: it contains a disallowed SQL construct"
  | aggregate : Explains .unsafeAggregate "Aggregate statement rejected: it contains a disallowed SQL construct"
  | statement (statement : String) : Explains (.unsupportedAggregate statement) ("Unsupported aggregate statement '" ++
      statement ++ "' (expected count, count(col), sum(col), average(col), minimum(col) or maximum(col))")

/-- **Each refusal has one reason.** -/
theorem explains_iff {refusal : Refusal} {reason : String} : Explains refusal reason ↔ reason = refusal.message := by
  constructor
  · rintro (_ | _ | name | name | _ | _ | statement)
    all_goals rfl
  · rintro rfl
    cases refusal with
    | missingName subject =>
      cases subject with
      | model => exact .noModel
      | table => exact .noTable
    | invalidName subject name =>
      cases subject with
      | model => exact .modelName name
      | table => exact .tableName name
    | unsafeFilter => exact .filter
    | unsafeAggregate => exact .aggregate
    | unsupportedAggregate statement => exact .statement statement

section

variable {σ : Type} {g : Gate} {ambient : List (String × String)} {run : Runner σ} {call : Call} {s : σ}

/-- **An envelope reports exactly what happened** to its call. -/
structure Reports (g : Gate) (ambient : List (String × String)) (run : Runner σ) (call : Call) (s : σ) : Prop where
  /-- Exactly the calls that pass validation get a reply. -/
  replied : call.isAccepted = true ↔ ∃ reply, g.Gets ambient run call s reply
  /-- A call succeeds exactly if it passes validation and its evaluator succeeds. -/
  success : (g.envelope ambient run call s).success = true ↔
    call.isAccepted = true ∧ ∃ outcome, g.Gets ambient run call s (.ok outcome) ∧ outcome.success = true
  /-- The text of a success is the output. -/
  output : ∀ outcome, g.Gets ambient run call s (.ok outcome) → outcome.success = true →
    (g.envelope ambient run call s).text = outcome.output
  /-- The text of an evaluator's failure is what it has written as errors. -/
  errors : ∀ outcome, g.Gets ambient run call s (.ok outcome) → outcome.success = false →
    (g.envelope ambient run call s).text = outcome.errors
  /-- An evaluator that cannot be started is told with what the call is about, the evaluator, the root and the reason. -/
  notStarted : ∀ failure, g.Gets ambient run call s (.error failure) → ∃ words, Announces call words ∧
    (g.envelope ambient run call s).text =
      words ++ ("Failed to start evaluator '" ++ g.evaluator ++ "' in " ++ g.root ++ ": " ++ failure.message)
  /-- A refused description of a table is told with the reason alone. -/
  tableRefused : ∀ name refusal, call = .describeTable name → resolve .table name = .error refusal →
    Explains refusal (g.envelope ambient run call s).text
  /-- So is that of a model. -/
  modelRefused : ∀ name refusal, call = .describeModel name → resolve .model name = .error refusal →
    Explains refusal (g.envelope ambient run call s).text
  /-- A refused selection is told that it needs a name exactly if it gives none. -/
  unnamed : ∀ request, call = .select request → call.isAccepted = false →
    ((g.envelope ambient run call s).text = "Model name is required" ↔ ¬ ∃ n, IsGiven request.collection n)
  /-- Any other refused selection is told with the name of its collection in front of the reason. -/
  named : ∀ request refusal, call = .select request → request.compile = .error refusal →
    (∃ n, IsGiven request.collection n) → ∃ n reason, request.collection = some n ∧ Explains refusal reason ∧
      (g.envelope ambient run call s).text = "Error selecting records for model '" ++ trimmed n ++ "': " ++ reason

/-! ## The two ways of a call -/

/-- There is only one invocation that a call hands over. -/
theorem Gate.Hands.unique {i j : Invocation} (hi : g.Hands ambient call i) (hj : g.Hands ambient call j) : i = j := by
  -- a runner that does nothing is handed both
  have hnoted := (hi (fun _ s => (.error .notFound, s)) () []).symm.trans (hj _ () [])
  exact List.cons.inj hnoted |>.1

/-- A planned call gets what the runner makes of its invocation. -/
theorem gets_iff_of_plan {plan : Plan} (h : call.plan = .ok plan) {reply : Reply} :
    g.Gets ambient run call s reply ↔ (run (g.invocation ambient plan) s).1 = reply := by
  constructor
  · rintro ⟨i, hi, hreply⟩
    rwa [hi.unique (hands_of_plan h)] at hreply
  · intro hreply
    exact ⟨_, hands_of_plan h, hreply⟩

/-- A refused call gets no reply at all. -/
theorem not_gets_of_refusal {refusal : Refusal} (h : call.plan = .error refusal) (reply : Reply) :
    ¬ g.Gets ambient run call s reply := by
  rintro ⟨i, hi, -⟩
  have hnoted := hi run s []
  rw [perform_of_refusal h] at hnoted
  exact absurd hnoted (by simp)

/-- A call that gets a reply has a plan, and its envelope is made from the reply. -/
theorem envelope_of_gets {reply : Reply} (h : g.Gets ambient run call s reply) :
    ∃ plan, call.plan = .ok plan ∧
      g.envelope ambient run call s = call.replyEnvelope (g.invocation ambient plan) reply := by
  cases hplan : call.plan with
  | error refusal => exact absurd h (not_gets_of_refusal hplan reply)
  | ok plan =>
    refine ⟨plan, rfl, ?_⟩
    unfold Gate.envelope
    rw [perform_of_plan hplan, (gets_iff_of_plan hplan).mp h]
    rfl

/-- The envelope of a refused call is a failure with the text of the refusal. -/
theorem envelope_of_refusal {refusal : Refusal} (h : call.plan = .error refusal) :
    g.envelope ambient run call s = .failure (call.refusalText refusal) := by
  unfold Gate.envelope
  rw [perform_of_refusal h]
  rfl

/-- With a reply the call succeeds if an evaluator ran and succeeded. -/
theorem success_iff_of_gets {reply : Reply} (h : g.Gets ambient run call s reply) :
    (g.envelope ambient run call s).success = true ↔ ∃ outcome, reply = .ok outcome ∧ outcome.success = true := by
  obtain ⟨plan, -, henvelope⟩ := envelope_of_gets h
  rw [henvelope]
  cases reply with
  | error failure => simp [Call.replyEnvelope, Envelope.failure]
  | ok outcome => simp [Call.replyEnvelope, Envelope.ofOutcome]

/-- **The calls that get a reply** are those that pass validation. -/
theorem replied_iff : call.isAccepted = true ↔ ∃ reply, g.Gets ambient run call s reply := by
  rw [isAccepted_iff]
  constructor
  · rintro ⟨plan, hplan⟩
    exact ⟨_, (gets_iff_of_plan hplan).mpr rfl⟩
  · rintro ⟨reply, h⟩
    obtain ⟨plan, hplan, -⟩ := envelope_of_gets h
    exact ⟨plan, hplan⟩

/-- **A call succeeds** if it passes and its evaluator succeeds, and only then. -/
theorem success_iff : (g.envelope ambient run call s).success = true ↔
    call.isAccepted = true ∧ ∃ outcome, g.Gets ambient run call s (.ok outcome) ∧ outcome.success = true := by
  constructor
  · intro h
    cases hplan : call.plan with
    | error refusal =>
      rw [envelope_of_refusal hplan] at h
      exact absurd h Bool.false_ne_true
    | ok plan =>
      have haccepted : call.isAccepted = true := isAccepted_iff.mpr ⟨plan, hplan⟩
      obtain ⟨reply, hgets⟩ := replied_iff.mp haccepted
      obtain ⟨outcome, rfl, houtcome⟩ := (success_iff_of_gets hgets).mp h
      exact ⟨haccepted, outcome, hgets, houtcome⟩
  · rintro ⟨-, outcome, hgets, houtcome⟩
    exact (success_iff_of_gets hgets).mpr ⟨outcome, rfl, houtcome⟩

/-! ## Names -/

/-- A name that is resolved has been given. -/
theorem exists_isGiven_of_resolve {subject : Subject} {name : Option String} {entity : String}
    (h : resolve subject name = .ok entity) : ∃ n, IsGiven name n := by
  cases hname : nonBlank? name with
  | none =>
    have hmissing : resolve subject name = .error (.missingName subject) :=
      resolve_eq_error_iff.mpr (Or.inl ⟨hname, rfl⟩)
    rw [h] at hmissing
    exact absurd hmissing (by simp)
  | some n => exact ⟨n, isGiven_iff.mpr hname⟩

/-- A selection with a name has it in front of its reasons. -/
theorem complaint_select {request : Request} {n : String} (h : request.collection = some n) :
    (Call.select request).complaint = "Error selecting records for model '" ++ trimmed n ++ "': " := by
  unfold Call.complaint
  simp only
  rw [h]

/-- **A call that passes names what it is about**, and these are the words in front of a reason. -/
theorem announces_complaint {plan : Plan} (h : call.plan = .ok plan) : Announces call call.complaint := by
  cases call with
  | select request =>
    obtain ⟨query, hquery, -⟩ := exists_script_of_select h
    obtain ⟨n, hn, -⟩ := exists_isGiven_of_resolve (compile_eq_ok_iff.mp hquery).1
    rw [complaint_select hn]
    exact .select hn
  | describeTable name =>
    obtain ⟨entity, ⟨hentity, -⟩, -⟩ := exists_standsFor h
    obtain ⟨n, rfl, -⟩ := exists_isGiven_of_resolve hentity
    exact .describeTable n
  | describeModel name =>
    obtain ⟨entity, ⟨hentity, -⟩, -⟩ := exists_standsFor h
    obtain ⟨n, rfl, -⟩ := exists_isGiven_of_resolve hentity
    exact .describeModel n
  | catalogue => exact .catalogue

/-! ## Refused selections -/

/-- **The name is missed** exactly if none is given, whatever else is wrong with the request. -/
theorem compile_eq_missingName_iff {request : Request} :
    request.compile = .error (.missingName .model) ↔ ¬ ∃ n, IsGiven request.collection n := by
  rw [← nonBlank?_eq_none_iff_isGiven]
  constructor
  · intro h
    rcases compile_eq_error_iff.mp h with hname | ⟨-, -, hfilter | ⟨-, -, haggregate⟩⟩
    · rcases resolve_eq_error_iff.mp hname with ⟨hnone, -⟩ | ⟨n, -, -, hother⟩
      · exact hnone
      · exact absurd hother (by simp)
    · exact absurd (filter?_eq_error_iff.mp hfilter).1 (by simp)
    · obtain ⟨t, -, ⟨-, hother⟩ | ⟨-, -, hother⟩⟩ := aggregate?_eq_error_iff.mp haggregate
      · exact absurd hother (by simp)
      · exact absurd hother (by simp)
  · intro hnone
    exact compile_eq_error_iff.mpr (Or.inl (resolve_eq_error_iff.mpr (Or.inl ⟨hnone, rfl⟩)))

/-- **A selection is refused with the name of its collection in front**, unless that is what is missing. -/
theorem refusalText_select {request : Request} {refusal : Refusal} {n : String} (hn : request.collection = some n)
    (h : refusal ≠ .missingName .model) : (Call.select request).refusalText refusal =
      "Error selecting records for model '" ++ trimmed n ++ "': " ++ refusal.message := by
  rw [← complaint_select hn]
  cases refusal with
  | missingName subject =>
    cases subject with
    | model => exact absurd rfl h
    | table => rfl
  | invalidName subject name => rfl
  | unsafeFilter => rfl
  | unsafeAggregate => rfl
  | unsupportedAggregate statement => rfl

/-- What is told with a name in front is not told for want of a name. -/
theorem named_ne_missing (n reason : String) :
    "Error selecting records for model '" ++ trimmed n ++ "': " ++ reason ≠ "Model name is required" := by
  intro h
  have hfirst := congrArg (fun text => text.toList.head?) h
  simp only [String.toList_append] at hfirst
  exact absurd hfirst (by simp)

/-- A selection is refused when its request is. -/
theorem plan_select_eq_error_iff {request : Request} {refusal : Refusal} :
    (Call.select request).plan = .error refusal ↔ request.compile = .error refusal := by
  simp only [Call.plan]
  cases request.compile with
  | error e => simp
  | ok query => simp

/-- **What becomes of a refused selection**: the reason, with the name of the collection in front if there is one. -/
theorem text_of_compile_error {request : Request} {refusal : Refusal} {n : String}
    (h : request.compile = .error refusal) (hn : IsGiven request.collection n) :
    (g.envelope ambient run (.select request) s).text =
      "Error selecting records for model '" ++ trimmed n ++ "': " ++ refusal.message := by
  have hne : refusal ≠ .missingName .model := by
    rintro rfl
    exact compile_eq_missingName_iff.mp h ⟨n, hn⟩
  rw [envelope_of_refusal (plan_select_eq_error_iff.mpr h), ← refusalText_select hn.1 hne]
  rfl

/-- **The bare reason is told** exactly if there is no name to put in front of it. -/
theorem text_eq_missing_iff {request : Request} {refusal : Refusal} (h : request.compile = .error refusal) :
    (g.envelope ambient run (.select request) s).text = "Model name is required" ↔
      ¬ ∃ n, IsGiven request.collection n := by
  constructor
  · rintro htext ⟨n, hn⟩
    rw [text_of_compile_error h hn] at htext
    exact named_ne_missing n refusal.message htext
  · intro hnone
    rw [compile_eq_missingName_iff.mpr hnone] at h
    obtain rfl := Except.error.inj h
    rw [envelope_of_refusal (plan_select_eq_error_iff.mpr (compile_eq_missingName_iff.mpr hnone))]
    rfl

end

/-- **Every envelope reports exactly what happened**, whatever the runner. -/
theorem reports_perform {σ : Type} (g : Gate) (ambient : List (String × String)) (run : Runner σ) (call : Call) (s : σ) :
    Reports g ambient run call s where
  replied := replied_iff
  success := success_iff
  output := by
    intro outcome hgets hsuccess
    obtain ⟨plan, -, henvelope⟩ := envelope_of_gets hgets
    rw [henvelope]
    exact if_pos hsuccess
  errors := by
    intro outcome hgets hfailure
    obtain ⟨plan, -, henvelope⟩ := envelope_of_gets hgets
    rw [henvelope]
    exact if_neg (Bool.eq_false_iff.mp hfailure)
  notStarted := by
    intro failure hgets
    obtain ⟨plan, hplan, henvelope⟩ := envelope_of_gets hgets
    refine ⟨call.complaint, announces_complaint hplan, ?_⟩
    rw [henvelope]
    rfl
  tableRefused := by
    rintro name refusal rfl h
    have hplan : (Call.describeTable name).plan = .error refusal := by simp only [Call.plan, h]
    rw [explains_iff, envelope_of_refusal hplan]
    rfl
  modelRefused := by
    rintro name refusal rfl h
    have hplan : (Call.describeModel name).plan = .error refusal := by simp only [Call.plan, h]
    rw [explains_iff, envelope_of_refusal hplan]
    rfl
  unnamed := by
    rintro request rfl hrefused
    obtain ⟨refusal, hplan⟩ := exists_refusal_of_not_accepted hrefused
    exact text_eq_missing_iff (plan_select_eq_error_iff.mp hplan)
  named := by
    rintro request refusal rfl hcompile ⟨n, hn⟩
    exact ⟨n, refusal.message, hn.1, explains_iff.mpr rfl, text_of_compile_error hcompile hn⟩

end RecordGate
