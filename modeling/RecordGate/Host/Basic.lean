import RecordGate.Shell.Run
import RecordGate.Evaluation.Invocation
import RecordGate.Evaluation.Outcome

/-!
# `RecordGate.Host.Basic` — the machine that evaluators run on

A host has a tree of files, a working directory, and variables that every program inherits. Of the programs of a
system it has a shell and the utilities that scripts use.

## Contents
- `Host` — a host; `Host.systemFiles`, `Host.ofFiles`.
- `Host.standardPath` — the directories in which programs are looked for.
-/

namespace RecordGate

open Files Shell

/-- The machine that evaluators run on. -/
structure Host where
  files : Node
  /-- The working directory. -/
  directory : Location
  /-- The variables that programs inherit. -/
  ambient : List (String × String)

namespace Host

/-- The programs of the system. -/
def programs : Node :=
  .directory ((shellNames ++ Utility.external.map (·.1)).map fun name => (Text.Utf8.encode name, .tool name))

/-- A path of names in ASCII. -/
def location (names : List String) : Location :=
  names.map Text.Utf8.encode

/-- The files of the system. -/
def systemFiles : Node :=
  ((Node.empty.put (location ["bin"]) programs).put (location ["usr", "bin"]) programs).put
    (location ["dev", "null"]) (.tool "null")

/-- The directories in which programs are looked for. -/
def standardPath : String :=
  "/usr/local/bin:/usr/bin:/bin"

/-- The variable that holds these directories. -/
def pathVariable : String :=
  "PATH"

/-- A host with these files in its working directory. -/
def ofFiles (directory : Location) (files : Node) : Host where
  files := systemFiles.put directory files
  directory := directory
  ambient := [(pathVariable, standardPath)]

/-- The entries of a directory. -/
def readDirectory (h : Host) (path : String) : Except Failure (List (FileName × Node)) :=
  Files.readDirectory h.files h.directory path

end Host

end RecordGate
