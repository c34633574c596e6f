import RecordGate.Gate.Basic

/-!
# `RecordGate.Gate.Session` — many calls, one after the other

`Gate.perform` answers a call with the help of a runner, which has a state of its own: it may start programs that
change files, or only count. A session runs steps in order and counts the evaluators started so far.
-/

namespace RecordGate

/-- A runner starts evaluators; `σ` is what changes by that. -/
abbrev Runner (σ : Type) := Invocation → σ → Reply × σ

/-- The answer to a call, and the runner's state after it. A refused call leaves the state alone. -/
def Gate.perform {σ : Type} (g : Gate) (ambient : List (String × String)) (run : Runner σ) (call : Call) (s : σ) :
    Answer × σ :=
  match call.plan with
  | .error refusal => (call.refused refusal, s)
  | .ok plan =>
    let i := g.invocation ambient plan
    let (reply, s) := run i s
    (g.concluded call plan i reply, s)

/-! ## Scripted sessions -/

/-- A step of a session whose evaluations are decided beforehand. -/
inductive Step where
  /-- A call, and what comes of its evaluation if there is one. -/
  | call (call : Call) (reply : Reply)
  /-- The gate gives way to a copy of itself. -/
  | clone

/-- What a step shows: the answer to a call, and how many evaluators have been started since the session began. -/
structure Report where
  answer : Option Answer
  spawns : Nat
  deriving DecidableEq, Repr

/-- The runner that starts nothing, gives the reply it is told, and counts. -/
def countingRunner (reply : Reply) : Runner Nat :=
  fun _ spawns => (reply, spawns + 1)

/-- One step after `spawns` evaluators have been started. -/
def Gate.step (g : Gate) (ambient : List (String × String)) (spawns : Nat) : Step → Report
  | .clone => ⟨none, spawns⟩
  | .call call reply =>
    let (answer, spawns) := g.perform ambient (countingRunner reply) call spawns
    ⟨some answer, spawns⟩

/-- The reports of a session that goes on after `spawns` evaluators have been started. -/
def Gate.session (g : Gate) (ambient : List (String × String)) : Nat → List Step → List Report
  | _, [] => []
  | spawns, step :: steps =>
    let report := g.step ambient spawns step
    report :: g.session ambient report.spawns steps

end RecordGate
