import RecordGate.Host.Start
import RecordGate.Protocol.Line
import RecordGate.Settings.CommandLine

/-!
# `RecordGate.Main` — the server on standard input and output

The server reads the command line and the variables that configure it, takes a picture of the files in the working
directory and in the root of the application, and then answers the lines that it reads. Evaluators run on the
picture: what they change is gone when the server ends.
-/

open RecordGate RecordGate.Files

namespace RecordGate.Main

/-- How deep below a directory files are looked at. -/
def depthOfPicture : Nat :=
  8

/-- The number of octets of the longest file whose content is looked at. -/
def maxContent : UInt64 :=
  1000000

/-- Whether a file is a script, which can be run. -/
def isScript (content : ByteArray) : Bool :=
  content.data.toList.take 2 == [0x23, 0x21]

/-- A picture of a directory entry. -/
def pictureOf (depth : Nat) (entry : IO.FS.DirEntry) : IO Node := do
  match depth with
  | 0 => return .empty
  | depth + 1 =>
    if ← entry.path.isDir then
      let entries ← entry.path.readDir
      return .directory (← entries.toList.mapM fun entry => do
        return (Text.Utf8.encode entry.fileName, ← pictureOf depth entry))
    else
      let metadata ← entry.path.metadata
      if metadata.byteSize > maxContent then return .file .empty false
      let content ← IO.FS.readBinFile entry.path
      return .file content (isScript content)

/-- A tree with a picture of the directory at a path, if there is one. -/
def withPicture (files : Node) (path : String) : IO Node :=
  try
    let entry : IO.FS.DirEntry := ⟨(path : String), "."⟩
    return files.put (below [] (Text.Utf8.encode path)) (← pictureOf depthOfPicture entry)
  catch _ => return files

/-- Answers the lines of the input until the session or the input ends. Gives whether the session ever began. -/
partial def serve (s : Settings) (around : Surroundings Host) (input output : IO.FS.Stream) (phase : Protocol.Phase)
    (host : Host) : IO Bool := do
  let line ← input.getLine
  if line.isEmpty then return phase.began
  match Protocol.exchange s around phase line host with
  | (written, phase, host) =>
    if let some text := written then
      output.putStrLn text
      output.flush
    match phase with
    | .ended began => return began
    | phase => serve s around input output phase host

/-- The variables that evaluators inherit, as far as they are set. This is a limit of this outer layer alone: it has no
    way to ask for all variables that are set, which evaluators should inherit, so it asks for those that matter to the
    settings and to evaluators. What is proved of the gate is proved for any list of variables. -/
def inherited : List String :=
  ["PATH", "HOME", "LANG", Settings.projectsRootVariable, Settings.modelsPathVariable, Settings.evaluatorVariable]

/-- The values of variables, as far as they are set. -/
def valuesOf (names : List String) : IO (List (String × String)) :=
  names.filterMapM fun name => do return (← IO.getEnv name).map (name, ·)

/-- Runs the server. -/
def run (arguments : List String) : IO UInt32 := do
  match CommandLine.flags arguments with
  | .error stop =>
    IO.print stop.output
    return stop.exitCode.toUInt32
  | .ok flags =>
    let directory := (← IO.currentDir).toString
    let vars ← valuesOf inherited
    let settings := (Settings.ofVariables directory fun name => vars.lookup name).withFlags flags
    let root := Path.join directory settings.projectsRoot
    let files ← withPicture (← withPicture Host.systemFiles directory) root
    let host : Host := ⟨files, below [] (Text.Utf8.encode directory), vars⟩
    let began ← serve settings host.surroundings (← IO.getStdin) (← IO.getStdout) .fresh host
    return if began then 0 else 1

end RecordGate.Main

/-- The server on standard input and output. -/
def main (arguments : List String) : IO UInt32 :=
  RecordGate.Main.run arguments
