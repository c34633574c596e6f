import RecordGate.Gate.Session
import RecordGate.Proofs.Query.Compile

/-!
# `RecordGate.Proofs.Gate.Accounting` — how often a gate runs its runner

A call is validated before anything is started. One that passes runs the runner once, for an invocation that is
fixed before (`Gate.RunsOnce`); one that does not never reaches it (`Gate.RunsNever`). So the report of a step
follows from the step and from the number of calls accepted before it (`session_getElem?`), and the account of a
whole session is read off that (`accounted_session`).
-/

namespace RecordGate

open Text Name

/-! ## Validation -/

/-- Whether a name is present and, trimmed, an ASCII letter followed by ASCII letters, digits and underscores. -/
def isResolvable (name : Option String) : Bool :=
  name.any fun n => isCollection (trim n.toList)

/-- Whether a call passes validation. -/
def Call.isAccepted : Call → Bool
  | .select request => request.compile.isOk
  | .describeTable name => isResolvable name
  | .describeModel name => isResolvable name
  | .catalogue => true

/-- Whether a step is a call that passes validation. A clone is no call. -/
def Step.isAccepted : Step → Bool
  | .call c _ => c.isAccepted
  | .clone => false

/-- Whether a name is resolved does not depend on what it is the name of; only the text of a refusal does. -/
theorem isResolvable_iff (subject : Subject) {name : Option String} :
    isResolvable name = true ↔ ∃ entity, resolve subject name = .ok entity := by
  unfold isResolvable
  rw [Option.any_eq_true]
  constructor
  · rintro ⟨n, hn, hcollection⟩
    exact ⟨entityName (trimmed n), resolve_eq_ok_iff.mpr ⟨n, hn, hcollection, rfl⟩⟩
  · rintro ⟨entity, h⟩
    obtain ⟨n, hn, hcollection, -⟩ := resolve_eq_ok_iff.mp h
    exact ⟨n, hn, hcollection⟩

/-- **The calls with a plan** are those that pass validation. -/
theorem isAccepted_iff {call : Call} : call.isAccepted = true ↔ ∃ plan, call.plan = .ok plan := by
  cases call with
  | select request =>
    show request.compile.isOk = true ↔ _
    simp only [Call.plan]
    cases request.compile with
    | error refusal => simp [Except.isOk, Except.toBool]
    | ok query => simp [Except.isOk, Except.toBool]
  | describeTable name =>
    show isResolvable name = true ↔ _
    rw [isResolvable_iff .table]
    simp only [Call.plan]
    cases resolve .table name with
    | error refusal => simp
    | ok entity => simp
  | describeModel name =>
    show isResolvable name = true ↔ _
    rw [isResolvable_iff .model]
    simp only [Call.plan]
    cases resolve .model name with
    | error refusal => simp
    | ok entity => simp
  | catalogue => exact ⟨fun _ => ⟨_, rfl⟩, fun _ => rfl⟩

/-- A call that does not pass validation has a reason for it instead of a plan. -/
theorem exists_refusal_of_not_accepted {call : Call} (h : call.isAccepted = false) :
    ∃ refusal, call.plan = .error refusal := by
  cases hp : call.plan with
  | error refusal => exact ⟨refusal, rfl⟩
  | ok plan =>
    rw [isAccepted_iff.mpr ⟨plan, hp⟩] at h
    exact absurd h (by decide)

/-! ## One call -/

/-- The runner is run once: for an invocation, and with an answer to its reply, that do not depend on it. -/
def Gate.RunsOnce (g : Gate) (ambient : List (String × String)) (call : Call) : Prop :=
  ∃ (i : Invocation) (answer : Reply → Answer), (∀ reply, (answer reply).invocation = some i) ∧
    ∀ {σ : Type} (run : Runner σ) (s : σ), g.perform ambient run call s = (answer (run i s).1, (run i s).2)

/-- The runner is never run: whatever it would do, its state stays and the answer is the same failure. -/
def Gate.RunsNever (g : Gate) (ambient : List (String × String)) (call : Call) : Prop :=
  ∃ answer : Answer, answer.envelope.success = false ∧ answer.invocation = none ∧
    ∀ {σ : Type} (run : Runner σ) (s : σ), g.perform ambient run call s = (answer, s)

section

variable {g : Gate} {ambient : List (String × String)} {call : Call}

/-- **A planned call** hands its invocation to the runner, and concludes from the reply. -/
theorem perform_of_plan {σ : Type} {run : Runner σ} {s : σ} {plan : Plan} (h : call.plan = .ok plan) :
    g.perform ambient run call s = (g.concluded call plan (g.invocation ambient plan)
      (run (g.invocation ambient plan) s).1, (run (g.invocation ambient plan) s).2) := by
  unfold Gate.perform
  rw [h]

/-- **A refused call** is answered without the runner, and leaves the state as it is. -/
theorem perform_of_refusal {σ : Type} {run : Runner σ} {s : σ} {refusal : Refusal} (h : call.plan = .error refusal) :
    g.perform ambient run call s = (call.refused refusal, s) := by
  unfold Gate.perform
  rw [h]

/-- A call that passes runs its runner once. -/
theorem runsOnce_of_accepted (h : call.isAccepted = true) : g.RunsOnce ambient call := by
  obtain ⟨plan, hplan⟩ := isAccepted_iff.mp h
  refine ⟨g.invocation ambient plan, g.concluded call plan (g.invocation ambient plan), fun _ => rfl, ?_⟩
  intro σ run s
  exact perform_of_plan hplan

/-- A call that does not pass never reaches its runner. -/
theorem runsNever_of_not_accepted (h : call.isAccepted = false) : g.RunsNever ambient call := by
  obtain ⟨refusal, hrefusal⟩ := exists_refusal_of_not_accepted h
  refine ⟨call.refused refusal, rfl, rfl, ?_⟩
  intro σ run s
  exact perform_of_refusal hrefusal

end

/-! ## One step -/

section

variable {g : Gate} {ambient : List (String × String)}

/-- **What a step adds to the count**: one if it is an accepted call, and nothing otherwise. -/
theorem step_spawns (spawns : Nat) (step : Step) :
    (g.step ambient spawns step).spawns = spawns + [step].countP Step.isAccepted := by
  cases step with
  | clone => rfl
  | call c reply =>
    rw [List.countP_singleton]
    by_cases h : c.isAccepted = true
    · obtain ⟨i, answer, -, hperform⟩ := @runsOnce_of_accepted g ambient c h
      rw [show Step.isAccepted (.call c reply) = true from h, if_pos rfl]
      simp only [Gate.step, hperform, countingRunner]
    · rw [Bool.not_eq_true] at h
      obtain ⟨answer, -, -, hperform⟩ := @runsNever_of_not_accepted g ambient c h
      rw [show Step.isAccepted (.call c reply) = false from h, if_neg (by decide)]
      simp only [Gate.step, hperform, Nat.add_zero]

/-- Which reply waits for a refused call makes no difference, since it is not asked for. -/
theorem step_eq_of_not_accepted {c : Call} (h : c.isAccepted = false) (spawns : Nat) (reply reply' : Reply) :
    g.step ambient spawns (.call c reply') = g.step ambient spawns (.call c reply) := by
  obtain ⟨answer, -, -, hperform⟩ := @runsNever_of_not_accepted g ambient c h
  simp only [Gate.step, hperform]

/-! ## A session -/

/-- There is one report for each step. -/
theorem length_session (spawns : Nat) (steps : List Step) :
    (g.session ambient spawns steps).length = steps.length := by
  induction steps generalizing spawns with
  | nil => rfl
  | cons step steps ih =>
    show (g.session ambient (g.step ambient spawns step).spawns steps).length + 1 = steps.length + 1
    rw [ih]

/-- **A report follows from its step and the accepted calls before it.** -/
theorem session_getElem? (spawns : Nat) (steps : List Step) (k : Nat) :
    (g.session ambient spawns steps)[k]? =
      steps[k]?.map (g.step ambient (spawns + (steps.take k).countP Step.isAccepted)) := by
  induction steps generalizing spawns k with
  | nil => rfl
  | cons step steps ih =>
    rw [Gate.session]
    cases k with
    | zero => rfl
    | succ k =>
      -- the count after `step` is what the rest of the session starts from
      rw [List.getElem?_cons_succ, List.getElem?_cons_succ, ih, step_spawns, List.take_succ_cons, Nat.add_assoc,
        ← List.countP_append, List.singleton_append]

/-- A report counts the calls that have been accepted up to its step. -/
theorem spawns_of_getElem? {spawns : Nat} {steps : List Step} {k : Nat} {report : Report}
    (h : (g.session ambient spawns steps)[k]? = some report) :
    report.spawns = spawns + (steps.take (k + 1)).countP Step.isAccepted := by
  rw [session_getElem?] at h
  obtain ⟨step, hstep, rfl⟩ := Option.map_eq_some_iff.mp h
  rw [step_spawns, List.take_add_one, hstep, Option.toList_some, List.countP_append, Nat.add_assoc]

/-- **What a refused call is told does not matter**, neither to its own report nor to any other. -/
theorem session_set_of_not_accepted {c : Call} (h : c.isAccepted = false) {spawns : Nat} {steps : List Step}
    {k : Nat} {reply : Reply} (hk : steps[k]? = some (.call c reply)) (reply' : Reply) :
    g.session ambient spawns (steps.set k (.call c reply')) = g.session ambient spawns steps := by
  induction steps generalizing spawns k with
  | nil => rfl
  | cons step steps ih =>
    cases k with
    | zero =>
      -- the two replies leave the same report, and so the same count for the rest
      obtain rfl := Option.some.inj hk
      rw [List.set_cons_zero, Gate.session, Gate.session, step_eq_of_not_accepted h spawns reply reply']
    | succ k => rw [List.set_cons_succ, Gate.session, Gate.session, ih hk]

end

/-- **The account of a session** of `steps`, from its beginning. -/
structure Accounted (g : Gate) (ambient : List (String × String)) (steps : List Step) : Prop where
  /-- Every step is reported. -/
  length : (g.session ambient 0 steps).length = steps.length
  /-- After every prefix, as many evaluators have been started as calls in it have been accepted. -/
  spawns : ∀ (k : Nat) (report : Report), (g.session ambient 0 steps)[k]? = some report →
    report.spawns = (steps.take (k + 1)).countP Step.isAccepted
  /-- A clone is no call, and is not answered. -/
  clone : ∀ k : Nat, steps[k]? = some .clone → ∃ spawns, (g.session ambient 0 steps)[k]? = some ⟨none, spawns⟩
  /-- An accepted call runs the runner once, and its answer shows the invocation. -/
  accepted : ∀ (k : Nat) (call : Call) (reply : Reply), steps[k]? = some (.call call reply) →
    call.isAccepted = true → g.RunsOnce ambient call ∧
      ∃ answer spawns i, (g.session ambient 0 steps)[k]? = some ⟨some answer, spawns⟩ ∧ answer.invocation = some i
  /-- A rejected call never runs the runner. It is answered with a failure and no invocation, and the whole session
      is the same whatever the runner would have returned for it. -/
  rejected : ∀ (k : Nat) (call : Call) (reply : Reply), steps[k]? = some (.call call reply) →
    call.isAccepted = false → g.RunsNever ambient call ∧
      (∃ answer spawns, (g.session ambient 0 steps)[k]? = some ⟨some answer, spawns⟩ ∧
        answer.envelope.success = false ∧ answer.invocation = none) ∧
      ∀ reply', g.session ambient 0 (steps.set k (.call call reply')) = g.session ambient 0 steps

/-- **Every session is accounted for**: each accepted call starts one evaluator, and nothing else starts any. -/
theorem accounted_session (g : Gate) (ambient : List (String × String)) (steps : List Step) :
    Accounted g ambient steps where
  length := length_session 0 steps
  spawns := by
    intro k report h
    rw [spawns_of_getElem? h, Nat.zero_add]
  clone := by
    intro k hk
    rw [session_getElem?, hk]
    exact ⟨_, rfl⟩
  accepted := by
    intro k call reply hk hcall
    have honce := @runsOnce_of_accepted g ambient call hcall
    refine ⟨honce, ?_⟩
    obtain ⟨i, answer, hi, hperform⟩ := honce
    rw [session_getElem?, hk, Option.map_some, Gate.step]
    simp only [hperform, countingRunner]
    exact ⟨answer reply, _, i, rfl, hi reply⟩
  rejected := by
    intro k call reply hk hcall
    have hnever := @runsNever_of_not_accepted g ambient call hcall
    refine ⟨hnever, ?_, session_set_of_not_accepted hcall hk⟩
    obtain ⟨answer, hfailure, hnone, hperform⟩ := hnever
    rw [session_getElem?, hk, Option.map_some, Gate.step]
    simp only [hperform]
    exact ⟨answer, _, rfl, hfailure, hnone⟩

end RecordGate
