/-!
# `RecordGate.Files.Path` — paths as they are written

A path is kept as it was written: joining two paths puts a separator between them where one is missing, and
simplifies nothing.
-/

namespace RecordGate.Files.Path

/-- Whether a path starts at the root of all files. -/
def isAbsolute (path : String) : Bool :=
  path.toList.head? == some '/'

/-- A path below `base`. An absolute path replaces `base`; below an empty path there is only the path itself. -/
def join (base path : String) : String :=
  if isAbsolute path then path
  else if base.isEmpty || base.toList.getLast? == some '/' then base ++ path
  else base ++ "/" ++ path

end RecordGate.Files.Path
