import RecordGate.Evaluation.Failure
import RecordGate.Files.Tree
import RecordGate.Text.Utf8

/-!
# `RecordGate.Files.Lookup` — where a path leads

A path is followed name by name from the root or from a working directory. Symbolic links on the way are followed, up
to forty of them; whether one at the end is followed is up to the caller. The last name may be missing, the names
before it may not.
-/

namespace RecordGate.Files

open Text

/-- The greatest number of octets in a name. -/
def maxName : Nat :=
  255

/-- The number of octets that a path stays below. -/
def maxPath : Nat :=
  4096

/-- The greatest number of symbolic links followed. -/
def maxLinks : Nat :=
  40

/-- The octet that separates names. -/
def separator : UInt8 :=
  0x2F

/-- This directory. -/
def thisName : FileName :=
  [0x2E]

/-- The directory above. -/
def parentName : FileName :=
  [0x2E, 0x2E]

/-- The names between separators, which may be empty. -/
def splitPath : List UInt8 → List FileName
  | [] => [[]]
  | b :: bs =>
    if b == separator then [] :: splitPath bs
    else
      match splitPath bs with
      | [] => [[b]]
      | name :: names => (b :: name) :: names

/-- The names of a path. A separator at the end asks for a directory, as `.` behind it would. -/
def names (path : List UInt8) : List FileName :=
  (splitPath path).filter (!·.isEmpty) ++ (if path.getLast? == some separator then [thisName] else [])

/-- Where the names of a path start. -/
def start (here : Location) (path : List UInt8) : Location :=
  if path.head? == some separator then [] else here

/-- Follows names from a place. Gives the place they lead to, and what stands there if anything does. -/
def follow (root : Node) (followLast : Bool) (links : Nat) (here : Location) (path : List FileName) :
    Except SystemError (Location × Option Node) :=
  match path with
  | [] => .ok (here, root.at? here)
  | name :: rest =>
    match root.at? here with
    | none => .error .notFound
    | some (.directory entries) =>
      if name == thisName then follow root followLast links here rest
      else if name == parentName then follow root followLast links here.dropLast rest
      else if name.length > maxName then .error .nameTooLong
      else
        match entries.lookup name with
        | none => if rest.isEmpty then .ok (here ++ [name], none) else .error .notFound
        | some (.link target) =>
          if rest.isEmpty && !followLast then .ok (here ++ [name], some (.link target))
          else
            match links with
            | 0 => .error .tooManyLinks
            | links + 1 =>
              if target.isEmpty then .error .notFound
              else follow root followLast links (start here target) (names target ++ rest)
        | some _ => follow root followLast links (here ++ [name]) rest
    | some _ => .error .notDirectory
termination_by (links, path.length)

/-- The place that a path leads to from a working directory. -/
def locate (root : Node) (here : Location) (path : List UInt8) : Except SystemError (Location × Option Node) :=
  if path.isEmpty then .error .notFound
  else if path.length ≥ maxPath then .error .nameTooLong
  else follow root true maxLinks (start here path) (names path)

/-- What stands where a path leads to. -/
def find (root : Node) (here : Location) (path : List UInt8) : Except SystemError (Location × Node) :=
  match locate root here path with
  | .error e => .error e
  | .ok (_, none) => .error .notFound
  | .ok (location, some node) => .ok (location, node)

/-- The entries of the directory that a path leads to. -/
def readDirectory (root : Node) (here : Location) (path : String) : Except Failure (List (FileName × Node)) :=
  if path.toList.contains '\x00' then .error .nulInFileName
  else
    match find root here (Utf8.encode path) with
    | .error e => .error (.system e)
    | .ok (_, .directory entries) => .ok entries
    | .ok _ => .error (.system .notDirectory)

/-- The location of a path below a place, as it is written: links are not followed. -/
def below (here : Location) (path : List UInt8) : Location :=
  (names path).foldl (fun here name =>
    if name == thisName then here else if name == parentName then here.dropLast else here ++ [name]) here

end RecordGate.Files
