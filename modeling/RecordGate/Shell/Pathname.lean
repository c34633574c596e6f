import RecordGate.Shell.Field

/-!
# `RecordGate.Shell.Pathname` — fields that name several files

A field with a wildcard outside quotation marks stands for the paths that it matches, in the order of octets; if it
matches none it stands for itself. A name that starts with a dot is matched only by a pattern that starts with one.

## Contents
- `hasWildcard` — which fields are patterns.
- `Machine.pathnames` — the paths that a field stands for.
-/

namespace RecordGate.Shell

open Files

/-- Whether a field has a wildcard outside quotation marks. -/
def hasWildcard (field : List Glyph) : Bool :=
  field.any fun (c, quoted) => !quoted && (c == '*' || c == '?' || c == '[')

/-- The parts of a field between separators. -/
def components : List Glyph → List (List Glyph)
  | [] => [[]]
  | (c, quoted) :: rest =>
    if c == '/' then [] :: components rest
    else
      match components rest with
      | [] => [[(c, quoted)]]
      | first :: others => ((c, quoted) :: first) :: others

/-- The names in a directory that a pattern matches. -/
def Machine.namesIn (m : Machine) (directory : Octets) (pattern : List Glyph) : List Octets :=
  match m.find (if directory.isEmpty then ['.'] else directory) with
  | .ok (_, .directory entries) =>
    let isHidden := (pattern.head?.map (·.1)) == some '.'
    (entries.map (Octets.ofBytes ·.1)).filter fun name =>
      (name.head? == some '.') == isHidden && matchesAll (atoms pattern) name
  | _ => []

/-- The paths that begin with `directory` and go on with what the patterns match. -/
def Machine.pathsBelow (m : Machine) (directory : Octets) : List (List Glyph) → List Octets
  | [] => []
  | [pattern] =>
    if hasWildcard pattern then (m.namesIn directory pattern).map (directory ++ ·)
    else
      let path := directory ++ pattern.map (·.1)
      match m.find path with
      | .ok _ => [path]
      | .error _ => []
  | pattern :: rest =>
    let names := if hasWildcard pattern then m.namesIn directory pattern else [pattern.map (·.1)]
    names.flatMap fun name => m.pathsBelow (directory ++ name ++ ['/']) rest

/-- The paths that a field stands for. -/
def Machine.pathnames (m : Machine) (field : List Glyph) : List Octets :=
  let text := field.map (·.1)
  if m.keepsWildcards || !hasWildcard field then [text]
  else
    match m.pathsBelow [] (components field) with
    | [] => [text]
    | paths => paths.mergeSort fun a b => !decide (b < a)

/-- The arguments that the marks of a word make. -/
def Machine.argumentsOf (m : Machine) (marks : List Mark) : List Octets :=
  (fields m.separators marks).flatMap m.pathnames

end RecordGate.Shell
