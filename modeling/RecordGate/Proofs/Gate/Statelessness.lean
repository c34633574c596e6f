import Mathlib.Logic.Equiv.Defs
import RecordGate.Proofs.Gate.Accounting

/-!
# `RecordGate.Proofs.Gate.Statelessness` — sessions keep nothing but a count

The answer to a call is `Gate.answer`, a function of the gate, the variables around it, the call and the reply that
its own evaluation gets; no runner can make a difference in any other way (`perform_fst`). In a session the one thing
that a step hands on to the next is the count of evaluators (`session_shift`). So sessions can be cut in two, steps
that start nothing can be put in or left out, and rearranging the calls rearranges their answers
(`stateless_session`).
-/

namespace RecordGate

variable {g : Gate} {ambient : List (String × String)}

/-! ## One call -/

/-- **A performed call is answered by the reply to its one invocation**, whatever its runner keeps. -/
theorem perform_fst (g : Gate) (ambient : List (String × String)) (call : Call) :
    ∃ i : Invocation, ∀ {σ : Type} (run : Runner σ) (s : σ),
      (g.perform ambient run call s).1 = g.answer ambient call (run i s).1 := by
  unfold Gate.answer
  cases hplan : call.plan with
  | error refusal =>
    -- no reply is asked for, so any invocation will do
    refine ⟨.evaluate g.evaluator "" (.ofRoot g.root ambient), fun run s => ?_⟩
    rw [perform_of_refusal hplan]
  | ok plan =>
    refine ⟨g.invocation ambient plan, fun run s => ?_⟩
    rw [perform_of_plan hplan]

/-- The answer that a step asks for by itself. A clone asks for none. -/
def Gate.answerTo (g : Gate) (ambient : List (String × String)) : Step → Option Answer
  | .clone => none
  | .call call reply => some (g.answer ambient call reply)

/-- A step is answered as if it were the only one. -/
theorem step_answer (spawns : Nat) (step : Step) :
    (g.step ambient spawns step).answer = g.answerTo ambient step := by
  cases step with
  | clone => rfl
  | call c reply =>
    obtain ⟨i, hi⟩ := perform_fst g ambient c
    exact congrArg some (hi (countingRunner reply) spawns)

/-! ## The count -/

/-- A report as it reads when `spawns` evaluators have been started before. -/
def Report.after (spawns : Nat) (r : Report) : Report :=
  ⟨r.answer, spawns + r.spawns⟩

/-- The count that the last report gives. -/
def finalSpawns (reports : List Report) : Nat :=
  (reports.getLast?.map Report.spawns).getD 0

/-- All that is different for a step after others is the count that it starts from. -/
theorem step_shift (m n : Nat) (step : Step) :
    g.step ambient (m + n) step = (g.step ambient n step).after m := by
  have hanswer : (g.step ambient (m + n) step).answer = (g.step ambient n step).answer := by
    rw [step_answer, step_answer]
  have hspawns : (g.step ambient (m + n) step).spawns = m + (g.step ambient n step).spawns := by
    rw [step_spawns, step_spawns, Nat.add_assoc]
  unfold Report.after
  rw [← hanswer, ← hspawns]

/-- **A session only counts on** from what was counted before it. -/
theorem session_shift (m n : Nat) (steps : List Step) :
    g.session ambient (m + n) steps = (g.session ambient n steps).map (Report.after m) := by
  induction steps generalizing n with
  | nil => rfl
  | cons step steps ih =>
    rw [Gate.session, Gate.session, List.map_cons, step_shift]
    exact congrArg _ (ih _)

/-- **A session can be cut in two**, if the second part starts from the count of the first. -/
theorem session_append (spawns : Nat) (a b : List Step) :
    g.session ambient spawns (a ++ b) =
      g.session ambient spawns a ++ g.session ambient (spawns + a.countP Step.isAccepted) b := by
  induction a generalizing spawns with
  | nil => rfl
  | cons step a ih =>
    rw [List.cons_append, Gate.session, Gate.session, ih, step_spawns, Nat.add_assoc, ← List.countP_append,
      List.singleton_append, List.cons_append]

/-- At the end all accepted calls have been counted. -/
theorem finalSpawns_session (steps : List Step) :
    finalSpawns (g.session ambient 0 steps) = steps.countP Step.isAccepted := by
  rcases List.eq_nil_or_concat steps with rfl | ⟨init, last, rfl⟩
  · rfl
  · rw [List.concat_eq_append, session_append, List.countP_append, Nat.zero_add]
    show finalSpawns (g.session ambient 0 init ++ [g.step ambient _ last]) = _
    unfold finalSpawns
    rw [List.getLast?_concat, Option.map_some, Option.getD_some, step_spawns]

/-! ## Steps left out -/

/-- The items whose mark is not set, in order. Items beyond the marks are kept. -/
def unmarked {α : Type} : List α → List Bool → List α
  | [], _ => []
  | items, [] => items
  | item :: items, mark :: marks => if mark then unmarked items marks else item :: unmarked items marks

/-- A step that starts nothing leaves the count as it is. -/
theorem step_spawns_of_not_accepted {step : Step} (h : step.isAccepted = false) (spawns : Nat) :
    (g.step ambient spawns step).spawns = spawns := by
  rw [step_spawns, List.countP_singleton, h]
  rfl

/-- **Steps that start nothing can be left out**, and the reports of the others stay the same. -/
theorem session_unmarked {spawns : Nat} {steps : List Step} {marks : List Bool}
    (h : ∀ p ∈ steps.zip marks, p.2 = true → p.1.isAccepted = false) :
    unmarked (g.session ambient spawns steps) marks = g.session ambient spawns (unmarked steps marks) := by
  induction steps generalizing spawns marks with
  | nil => rfl
  | cons step steps ih =>
    cases marks with
    | nil => rfl
    | cons mark marks =>
      simp only [List.zip_cons_cons, List.forall_mem_cons] at h
      obtain ⟨hstep, hrest⟩ := h
      rw [Gate.session]
      cases mark with
      | true =>
        -- a step that starts nothing leaves the count to the rest as it was
        show unmarked (g.session ambient (g.step ambient spawns step).spawns steps) marks = _
        rw [step_spawns_of_not_accepted (hstep rfl)]
        exact ih hrest
      | false =>
        show _ :: unmarked (g.session ambient (g.step ambient spawns step).spawns steps) marks = _
        rw [ih hrest]
        rfl

/-! ## Answers -/

/-- The answers of a session are those of its steps one by one. -/
theorem map_answer_session (spawns : Nat) (steps : List Step) :
    (g.session ambient spawns steps).map Report.answer = steps.map (g.answerTo ambient) := by
  induction steps generalizing spawns with
  | nil => rfl
  | cons step steps ih => rw [Gate.session, List.map_cons, List.map_cons, step_answer, ih]

/-- The answer to the step at a position of a session. -/
def Gate.answerAt (g : Gate) (ambient : List (String × String)) (steps : List Step) (k : Nat) :
    Option (Option Answer) :=
  (g.session ambient 0 steps)[k]?.map Report.answer

/-- The answer to a step can be told from the step. -/
theorem answerAt_eq (steps : List Step) (k : Nat) :
    g.answerAt ambient steps k = steps[k]?.map (g.answerTo ambient) := by
  unfold Gate.answerAt
  rw [← List.getElem?_map, map_answer_session, List.getElem?_map]

/-! ## Sessions -/

/-- **Sessions behind a gate are stateless**, and its clones cannot be told from it. -/
structure Stateless (g : Gate) (ambient : List (String × String)) : Prop where
  /-- The answer to a call depends on what the runner does only by the reply for one invocation. -/
  call : ∀ call : Call, ∃ i : Invocation, ∀ {σ : Type} (run : Runner σ) (s : σ),
    (g.perform ambient run call s).1 = g.answer ambient call (run i s).1
  /-- In a session, the answer to a call is a function of the call and its own reply: no other step matters. -/
  own : ∀ (steps : List Step) (k : Nat) (call : Call) (reply : Reply), steps[k]? = some (.call call reply) →
    g.answerAt ambient steps k = some (some (g.answer ambient call reply))
  /-- A session that follows on another one gives its own reports, with the counts shifted by what the other one
      has counted at its end. -/
  append : ∀ a b : List Step, g.session ambient 0 (a ++ b) =
    g.session ambient 0 a ++ (g.session ambient 0 b).map (Report.after (finalSpawns (g.session ambient 0 a)))
  /-- Clones and refused calls may be put in or left out anywhere: the other reports stay, with their counts. -/
  idle : ∀ (steps : List Step) (marks : List Bool),
    (∀ p ∈ steps.zip marks, p.2 = true → p.1.isAccepted = false) →
      unmarked (g.session ambient 0 steps) marks = g.session ambient 0 (unmarked steps marks)
  /-- Rearranging the steps, each with its reply, rearranges the answers in the same way. -/
  permuted : ∀ (n : Nat) (steps : Fin n → Step) (order : Equiv.Perm (Fin n)) (k : Fin n),
    g.answerAt ambient (List.ofFn (steps ∘ order)) k = g.answerAt ambient (List.ofFn steps) (order k)

/-- **Every gate is stateless.** -/
theorem stateless_session (g : Gate) (ambient : List (String × String)) : Stateless g ambient where
  call := perform_fst g ambient
  own := by
    intro steps k call reply hk
    rw [answerAt_eq, hk]
    rfl
  append := by
    intro a b
    rw [session_append, finalSpawns_session, ← session_shift, Nat.zero_add, Nat.add_zero]
  idle := fun _ _ h => session_unmarked h
  permuted := by
    intro n steps order k
    rw [answerAt_eq, answerAt_eq]
    simp

end RecordGate
