/-!
# `RecordGate.Evaluation.Failure` — why a file cannot be read or a program not be started
-/

namespace RecordGate

/-- An error of the operating system, by its number. -/
structure SystemError where
  code : Nat
  deriving DecidableEq, Repr

namespace SystemError

def notFound : SystemError := ⟨2⟩
def argumentsTooLong : SystemError := ⟨7⟩
def noInterpreter : SystemError := ⟨8⟩
def denied : SystemError := ⟨13⟩
def notDirectory : SystemError := ⟨20⟩
def isDirectory : SystemError := ⟨21⟩
def nameTooLong : SystemError := ⟨36⟩
def tooManyLinks : SystemError := ⟨40⟩

/-- What the system says of its errors, by number. -/
def descriptions : List (Nat × String) :=
  [(1, "Operation not permitted"), (2, "No such file or directory"), (5, "Input/output error"),
    (7, "Argument list too long"), (8, "Exec format error"), (11, "Resource temporarily unavailable"),
    (12, "Cannot allocate memory"), (13, "Permission denied"), (17, "File exists"), (20, "Not a directory"),
    (21, "Is a directory"), (22, "Invalid argument"), (24, "Too many open files"), (26, "Text file busy"),
    (28, "No space left on device"), (30, "Read-only file system"), (36, "File name too long"),
    (39, "Directory not empty"), (40, "Too many levels of symbolic links")]

/-- What the system says of an error. -/
def description (e : SystemError) : String :=
  match descriptions.find? fun entry => entry.1 == e.code with
  | some entry => entry.2
  | none => "Unknown error " ++ Nat.repr e.code

/-- The text of an error, with its number. -/
def message (e : SystemError) : String :=
  e.description ++ " (os error " ++ Nat.repr e.code ++ ")"

end SystemError

/-- Why an operation on files or programs fails. -/
inductive Failure where
  /-- The operating system refuses. -/
  | system (error : SystemError)
  /-- The thing is known to be missing. -/
  | notFound
  /-- The caller is known to lack a permission. -/
  | permissionDenied
  /-- A parameter makes no sense. -/
  | invalidInput
  /-- The name of a program contains a NUL. -/
  | nulInProgram
  /-- The name of a file contains a NUL. -/
  | nulInFileName
  /-- Anything else, in words. -/
  | other (message : String)
  deriving DecidableEq, Repr

/-- The text of a failure. -/
def Failure.message : Failure → String
  | .system error => error.message
  | .notFound => "entity not found"
  | .permissionDenied => "permission denied"
  | .invalidInput => "invalid input parameter"
  | .nulInProgram => "nul byte found in provided data"
  | .nulInFileName => "file name contained an unexpected NUL byte"
  | .other message => message

end RecordGate
