/-!
# `RecordGate.Files.Tree` — a tree of files

Names and contents are octets. A location is the list of names that leads from the root to a place in the tree;
`Node.at?` and `Node.put` read and change what stands there.
-/

namespace RecordGate.Files

/-- The name of a file, which need not be text. -/
abbrev FileName := List UInt8

/-- The names from the root to a place. -/
abbrev Location := List FileName

/-- What a name stands for. -/
inductive Node where
  /-- A regular file. -/
  | file (content : ByteArray) (executable : Bool)
  /-- A directory. -/
  | directory (entries : List (FileName × Node))
  /-- A symbolic link. -/
  | link (target : List UInt8)
  /-- A program of the system, by its name. -/
  | tool (name : String)

namespace Node

/-- A directory without entries. -/
def empty : Node :=
  .directory []

/-- The entries of a directory; nothing else has any. -/
def entries : Node → List (FileName × Node)
  | .directory entries => entries
  | _ => []

/-- The entry of this name. -/
def child? (node : Node) (name : FileName) : Option Node :=
  node.entries.lookup name

/-- What stands at a location. -/
def at? (root : Node) : Location → Option Node
  | [] => some root
  | name :: rest => (root.child? name).bind fun child => child.at? rest

/-- The node with another child of this name. -/
def setChild (node : Node) (name : FileName) (child : Node) : Node :=
  .directory (node.entries.filter (fun entry => entry.1 != name) ++ [(name, child)])

/-- The tree with another node at a location. Directories on the way are made. -/
def put (root : Node) (location : Location) (node : Node) : Node :=
  match location with
  | [] => node
  | name :: rest => root.setChild name (((root.child? name).getD .empty).put rest node)

/-- The tree without what stands at a location. -/
def remove (root : Node) (location : Location) : Node :=
  match location with
  | [] => root
  | [name] => .directory (root.entries.filter fun entry => entry.1 != name)
  | name :: rest =>
    match root.child? name with
    | some child => root.setChild name (child.remove rest)
    | none => root

/-- Whether the node is a directory. -/
def isDirectory : Node → Bool
  | .directory _ => true
  | _ => false

/-- Whether the node is a regular file. -/
def isFile : Node → Bool
  | .file .. | .tool _ => true
  | _ => false

end Node

end RecordGate.Files
