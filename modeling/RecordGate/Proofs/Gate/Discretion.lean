import RecordGate.Proofs.Gate.Envelopes
import RecordGate.Proofs.Gate.Statelessness
import RecordGate.Proofs.Query.Relevance

/-!
# `RecordGate.Proofs.Gate.Discretion` — what logs keep to themselves

Of a selection the log shows the reason of a refusal, or else the entity and the kind of the answer (`Plan.subject`).
Both are the same for two selections that agree in everything but filter, ordering and limit, provided that the filters
of both are refused or those of neither (`plan_subject_eq`). The rest of a call's log is a matter of the gate and the
reply (`logs_answer_congr`). So the logs of the two selections cannot be told apart, nor those of sessions in which the
one stands for the other (`loggedAlike_of_sameButFragments`).
-/

namespace RecordGate

open Text Fragment

/-! ## Requests that differ in their fragments -/

/-- A filter is given that contains a refused construct. -/
def Criteria.HasRefusedFilter (c : Criteria) : Prop :=
  ∃ t, IsGiven c.filter t ∧ isSafe t = false

/-- **The requests differ at most in filter, ordering and limit**, and their filters are both refused, or neither is. -/
structure SameButFragments (r r' : Request) : Prop where
  collection : r.collection = r'.collection
  aggregate : r.aggregate = r'.aggregate
  countOnly : r.countOnly = r'.countOnly
  refused : r.HasRefusedFilter ↔ r'.HasRefusedFilter

/-- What is noted about a step. -/
def Report.logs (report : Report) : List LogRecord :=
  (report.answer.map Answer.logs).getD []

/-- **The logs of two selections cannot be told apart** by anyone who reads no more than them. -/
structure LoggedAlike (g : Gate) (ambient ambient' : List (String × String)) (r r' : Request) : Prop where
  /-- Both selections are refused, or neither is. -/
  accepted : (Call.select r).isAccepted = (Call.select r').isAccepted
  /-- The same is noted about both, whatever their evaluation comes to. -/
  answered : ∀ reply, (g.answer ambient (.select r) reply).logs = (g.answer ambient' (.select r') reply).logs
  /-- It is with runners of any kind, if those give the two calls the same reply. -/
  performed : ∀ {σ τ : Type} (run : Runner σ) (run' : Runner τ) (s : σ) (t : τ),
    (∀ reply, g.Gets ambient run (.select r) s reply ↔ g.Gets ambient' run' (.select r') t reply) →
      (g.perform ambient run (.select r) s).1.logs = (g.perform ambient' run' (.select r') t).1.logs
  /-- In a session the one may stand for the other, and nothing is noted otherwise about any step. -/
  session : ∀ (before after : List Step) (reply : Reply),
    (g.session ambient 0 (before ++ .call (.select r) reply :: after)).map Report.logs =
      (g.session ambient 0 (before ++ .call (.select r') reply :: after)).map Report.logs

/-! ## What is noted -/

/-- What is noted when an invocation has been tried does not depend on its text, nor on its variables. -/
theorem replyLogs_congr {i j : Invocation} (hprogram : i.program = j.program) (hdirectory : i.directory = j.directory)
    (reply : Reply) : i.replyLogs reply = j.replyLogs reply := by
  cases reply with
  | error failure => simp only [Invocation.replyLogs, hprogram, hdirectory]
  | ok outcome => simp only [Invocation.replyLogs, hprogram]

/-- Calls of the same subject are refused for the same reason, or both pass. -/
theorem plans_of_subject {call call' : Call} (h : call.plan.map Plan.subject = call'.plan.map Plan.subject) :
    (∃ refusal, call.plan = .error refusal ∧ call'.plan = .error refusal) ∨
      ∃ plan plan', call.plan = .ok plan ∧ call'.plan = .ok plan' ∧ plan.subject = plan'.subject := by
  cases hplan : call.plan with
  | error refusal =>
    cases hplan' : call'.plan with
    | error refusal' =>
      rw [hplan, hplan'] at h
      obtain rfl := Except.error.inj h
      exact Or.inl ⟨refusal, rfl, rfl⟩
    | ok plan' => exact absurd h (by simp [hplan, hplan', Except.map])
  | ok plan =>
    cases hplan' : call'.plan with
    | error refusal' => exact absurd h (by simp [hplan, hplan', Except.map])
    | ok plan' =>
      rw [hplan, hplan'] at h
      exact Or.inr ⟨plan, plan', rfl, rfl, Except.ok.inj h⟩

/-- **The log of a call** shows its operation, and of its plan only the refusal or the subject. -/
theorem logs_answer_congr (g : Gate) (ambient ambient' : List (String × String)) {call call' : Call} (reply : Reply)
    (hoperation : call.operation = call'.operation)
    (hsubject : call.plan.map Plan.subject = call'.plan.map Plan.subject) :
    (g.answer ambient call reply).logs = (g.answer ambient' call' reply).logs := by
  unfold Gate.answer
  rcases plans_of_subject hsubject with ⟨refusal, hplan, hplan'⟩ | ⟨plan, plan', hplan, hplan', hsame⟩
  · rw [hplan, hplan']
    simp only [Call.refused, hoperation]
  · have hreply : (g.invocation ambient plan).replyLogs reply = (g.invocation ambient' plan').replyLogs reply :=
      replyLogs_congr rfl rfl reply
    rw [hplan, hplan']
    simp only [Gate.concluded, hoperation, hsame, hreply]

/-! ## What is noted about a selection -/

section

variable {r r' : Request}

/-- The subject of a selection is the entity and the kind of the answer. -/
theorem plan_select (r : Request) : (Call.select r).plan.map Plan.subject =
    r.compile.map fun q => " " ++ q.entity ++ " (" ++ q.kind ++ ")" := by
  simp only [Call.plan]
  cases r.compile with
  | error refusal => rfl
  | ok query => rfl

/-- A filter with a refused construct is refused for that reason. -/
theorem filter?_of_hasRefusedFilter {c : Criteria} (h : c.HasRefusedFilter) : c.filter? = .error .unsafeFilter := by
  obtain ⟨t, ht, hrefused⟩ := h
  exact filter?_eq_error_iff.mpr ⟨rfl, t, isGiven_iff.mp ht, hrefused⟩

/-- Any other filter passes, and so does a missing one. -/
theorem exists_filter?_of_not_hasRefusedFilter {c : Criteria} (h : ¬ c.HasRefusedFilter) :
    ∃ filter, c.filter? = .ok filter := by
  cases hfilter : c.filter? with
  | error refusal =>
    obtain ⟨-, t, ht, hrefused⟩ := filter?_eq_error_iff.mp hfilter
    exact absurd ⟨t, isGiven_iff.mpr ht, hrefused⟩ h
  | ok filter => exact ⟨filter, rfl⟩

/-- **The fragments of a selection are not its subject**, nor its refusal but for one that is refused itself. -/
theorem plan_subject_eq (h : SameButFragments r r') :
    (Call.select r).plan.map Plan.subject = (Call.select r').plan.map Plan.subject := by
  have haggregate : r.aggregate? = r'.aggregate? :=
    aggregate?_congr (by rw [h.aggregate]) fun _ => h.countOnly
  rw [plan_select, plan_select]
  unfold Request.compile Request.entity Criteria.compile
  rw [h.collection]
  cases resolve .model r'.collection with
  | error refusal => rfl
  | ok entity =>
    by_cases hrefused : r.HasRefusedFilter
    · rw [filter?_of_hasRefusedFilter hrefused, filter?_of_hasRefusedFilter (h.refused.mp hrefused)]
    · obtain ⟨filter, hfilter⟩ := exists_filter?_of_not_hasRefusedFilter hrefused
      obtain ⟨filter', hfilter'⟩ := exists_filter?_of_not_hasRefusedFilter (hrefused ∘ h.refused.mpr)
      rw [hfilter, hfilter', haggregate]
      cases r'.aggregate? with
      | error refusal => rfl
      | ok aggregate =>
        -- a listing is a listing, whatever its ordering and limit
        cases aggregate with
        | none => rfl
        | some a => rfl

/-- The same is noted about both selections when they are answered with the same reply. -/
theorem logs_answer_eq (h : SameButFragments r r') (g : Gate) (ambient ambient' : List (String × String))
    (reply : Reply) : (g.answer ambient (.select r) reply).logs = (g.answer ambient' (.select r') reply).logs :=
  logs_answer_congr g ambient ambient' reply rfl (plan_subject_eq h)

/-- Both selections pass validation, or neither does. -/
theorem isAccepted_eq (h : SameButFragments r r') : (Call.select r).isAccepted = (Call.select r').isAccepted := by
  rw [Bool.eq_iff_iff, isAccepted_iff, isAccepted_iff]
  rcases plans_of_subject (plan_subject_eq h) with ⟨refusal, hplan, hplan'⟩ | ⟨plan, plan', hplan, hplan', -⟩
  · simp [hplan, hplan']
  · simp [hplan, hplan']

end

/-! ## Calls and sessions -/

section

variable {g : Gate} {ambient : List (String × String)} {call : Call}

/-- A call is answered as its reply demands; one that gets none is answered as any reply would have it. -/
theorem perform_eq_answer {σ : Type} {run : Runner σ} {s : σ} {reply : Reply}
    (h : call.isAccepted = true → g.Gets ambient run call s reply) :
    (g.perform ambient run call s).1 = g.answer ambient call reply := by
  unfold Gate.answer
  cases hplan : call.plan with
  | error refusal => rw [perform_of_refusal hplan]
  | ok plan =>
    have hgets := h (isAccepted_iff.mpr ⟨plan, hplan⟩)
    rw [perform_of_plan hplan, (gets_iff_of_plan hplan).mp hgets]

/-- What a session notes is what its steps note one by one. -/
theorem map_logs_session (spawns : Nat) (steps : List Step) :
    (g.session ambient spawns steps).map Report.logs =
      steps.map fun step => ((g.answerTo ambient step).map Answer.logs).getD [] := by
  have hmap := congrArg (List.map fun answer : Option Answer => (answer.map Answer.logs).getD [])
    (@map_answer_session g ambient spawns steps)
  rwa [List.map_map, List.map_map] at hmap

end

/-- **Logs do not show fragments**: they are the same for requests that differ in nothing else. -/
theorem loggedAlike_of_sameButFragments {r r' : Request} (h : SameButFragments r r') (g : Gate)
    (ambient ambient' : List (String × String)) : LoggedAlike g ambient ambient' r r' where
  accepted := isAccepted_eq h
  answered := logs_answer_eq h g ambient ambient'
  performed := by
    intro σ τ run run' s t hsame
    -- any reply will do where none is got
    have hreply : ∃ reply, ((Call.select r).isAccepted = true → g.Gets ambient run (.select r) s reply) := by
      by_cases haccepted : (Call.select r).isAccepted = true
      · obtain ⟨reply, hgets⟩ := replied_iff.mp haccepted
        exact ⟨reply, fun _ => hgets⟩
      · exact ⟨.error .notFound, fun h => absurd h haccepted⟩
    obtain ⟨reply, hgets⟩ := hreply
    have hgets' : (Call.select r').isAccepted = true → g.Gets ambient' run' (.select r') t reply := by
      rw [← isAccepted_eq h]
      exact fun haccepted => (hsame reply).mp (hgets haccepted)
    rw [perform_eq_answer hgets, perform_eq_answer hgets', logs_answer_eq h g ambient ambient' reply]
  session := by
    intro before after reply
    rw [map_logs_session, map_logs_session, List.map_append, List.map_append, List.map_cons, List.map_cons]
    congr 2
    exact logs_answer_eq h g ambient ambient reply

theorem loggedAlike_secretFilters :
    SameButFragments { collection := some "posts", filter := some "title = 'a secret'", order := some "title" }
      { collection := some "posts", filter := none, limit := some 3 } ∧
    LoggedAlike ⟨"/srv/app", "ruby"⟩ [] []
      { collection := some "posts", filter := some "title = 'a secret'", order := some "title" }
      { collection := some "posts", filter := none, limit := some 3 } := by
  have h : SameButFragments { collection := some "posts", filter := some "title = 'a secret'", order := some "title" }
      { collection := some "posts", filter := none, limit := some 3 } := by
    refine ⟨rfl, rfl, rfl, ?_⟩
    constructor
    · rintro ⟨t, ht, hrefused⟩
      obtain rfl := Option.some.inj ht.1
      exact absurd hrefused (by decide +kernel)
    · rintro ⟨t, ht, -⟩
      exact absurd ht.1 (by simp)
  exact ⟨h, loggedAlike_of_sameButFragments h _ _ _⟩

end RecordGate
