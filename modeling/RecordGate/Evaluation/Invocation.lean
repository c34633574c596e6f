import RecordGate.Evaluation.Environment
import RecordGate.Evaluation.Script

/-!
# `RecordGate.Evaluation.Invocation` — everything needed to start one evaluator

An invocation is a value; making one starts nothing. All of them have the same form: the configured program, the
option that evaluates a text, and the text.
-/

namespace RecordGate

/-- How one evaluator is started. -/
structure Invocation where
  program : String
  arguments : List String
  directory : String
  vars : Variables
  deriving DecidableEq, Repr

/-- The invocation that evaluates a program text. -/
def Invocation.evaluate (program script : String) (env : Environment) : Invocation :=
  ⟨program, ["-e", script], env.directory, env.vars⟩

/-- The program text of an invocation. -/
def Invocation.script (i : Invocation) : String :=
  i.arguments[1]?.getD ""

end RecordGate
