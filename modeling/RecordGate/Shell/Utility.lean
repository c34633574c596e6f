import RecordGate.Shell.Condition
import RecordGate.Shell.Printf

/-!
# `RecordGate.Shell.Utility` — the programs that scripts use

A utility gets its arguments and the machine, and leaves a status and the changed machine. It reads the standard
input, writes the standard output, and complains to the standard error.

## Contents
- `Utility`, `utility?` — the utilities by name.
-/

namespace RecordGate.Shell

open Files

/-- A program: from its arguments and the machine to a status and the machine. -/
abbrev Utility := List Octets → Machine → Nat × Machine

namespace Utility

/-! ## Arguments -/

/-- The letters of the options among the arguments, and the other arguments. -/
def options : List Octets → List Char × List Octets
  | [] => ([], [])
  | ['-', '-'] :: rest => ([], rest)
  | ('-' :: letter :: letters) :: rest =>
    let (more, rest) := options rest
    (letter :: letters ++ more, rest)
  | word :: rest =>
    let (letters, rest) := options rest
    (letters, word :: rest)

/-- Whether an octet means nothing special to a shell. -/
def isHarmless (c : Char) : Bool :=
  c.isAlphanum || "%+,-./:=@_".toList.contains c || c.toNat ≥ 0x80

/-- A path as a complaint quotes it: between apostrophes if a shell would need them. -/
def quotedPath (path : Octets) : Octets :=
  if !path.isEmpty && path.all isHarmless then path
  else '\'' :: path.flatMap (fun c => if c == '\'' then "'\\''".toList else [c]) ++ ['\'']

/-- A complaint of a utility about a path, as the system puts it. -/
def systemComplaint (name : String) (path : Octets) (e : SystemError) : String :=
  name ++ ": " ++ Octets.toText (quotedPath path) ++ ": " ++ e.description

/-- The content of the files that are named, or the input if none is; a hyphen names the input. -/
def inputs (name : String) (paths : List Octets) (m : Machine) : List (Octets × Octets) × Nat × Machine :=
  (if paths.isEmpty then [['-']] else paths).foldl (fun (found, status, m) path =>
    if path == ['-'] then
      let (cs, m) := m.readAll
      (found ++ [(path, cs)], status, m)
    else
      match m.contentOf path with
      | .ok cs => (found ++ [(path, cs)], status, m)
      | .error e => (found, 1, m.warn (systemComplaint name path e))) ([], 0, m)

/-- All content of the files that are named, or of the input. -/
def input (name : String) (paths : List Octets) (m : Machine) : Octets × Nat × Machine :=
  let (found, status, m) := inputs name paths m
  (found.flatMap (·.2), status, m)

/-! ## Output -/

/-- Prints its arguments; escapes are replaced. -/
def echo : Utility := fun arguments m =>
  (0, m.print (echoed true arguments))

/-- Prints its arguments; whether escapes are replaced is up to an option. -/
def plainEcho : Utility := fun arguments m =>
  let isOption (word : Octets) := word.head? == some '-' && word.length > 1 &&
    word.tail.all fun c => c == 'n' || c == 'e' || c == 'E'
  let letters := (arguments.takeWhile isOption).flatten.filter (· != '-')
  let rest := arguments.dropWhile isOption
  let withEscapes := (letters.filter (· != 'n')).getLast? == some 'e'
  let line := [' '].intercalate rest
  let (line, ends) := if withEscapes then escaped line else (line, false)
  (0, m.print (if letters.contains 'n' || ends then line else line ++ ['\n']))

/-- Prints its arguments in a format. -/
def printf : Utility := fun arguments m =>
  match (if arguments.head? == some ['-', '-'] then arguments.tail else arguments) with
  | [] => (2, m.report "printf: usage: printf format [arg ...]")
  | format :: rest =>
    let f := formatted format rest
    let m := m.print f.output
    (if f.wrong.isEmpty then 0 else 1,
      f.wrong.foldl (fun m cs => m.report ("printf: " ++ Octets.toText cs ++ ": expected numeric value")) m)

/-- Prints files. -/
def cat : Utility := fun arguments m =>
  let (cs, status, m) := input "cat" (options arguments).2 m
  (status, m.print cs)

/-- Prints the working directory. -/
def pwd : Utility := fun _ m =>
  (0, m.print (Machine.pathOf m.place ++ ['\n']))

/-- Prints the input, and writes it to files. -/
def tee : Utility := fun arguments m =>
  let (letters, paths) := options arguments
  let (cs, m) := m.readAll
  let m := m.print cs
  paths.foldl (fun (status, m) path =>
    match Files.locate m.files m.place (Octets.toBytes path) with
    | .ok (_, some (.directory _)) => (1, m.warn (systemComplaint "tee" path .isDirectory))
    | .ok (place, some (.file content executable)) =>
      let content := if letters.contains 'a' then content else .empty
      (status, ({ m with files := m.files.put place (.file content executable) } : Machine).put (.file place) cs)
    | .ok (place, none) =>
      (status, ({ m with files := m.files.put place (.file .empty false) } : Machine).put (.file place) cs)
    | .ok _ => (status, m)
    | .error e => (1, m.warn (systemComplaint "tee" path e))) (0, m)

/-! ## Counting and selecting -/

/-- The number of words in a text. -/
def wordCount (cs : Octets) : Nat :=
  (cs.foldl (fun (count, inside) c =>
    if isSpace c then (count, false) else (if inside then count else count + 1, true)) (0, false)).1

/-- Counts lines, words and octets. -/
def wc : Utility := fun arguments m =>
  let (letters, paths) := options arguments
  let letters := if letters.isEmpty then ['l', 'w', 'c'] else letters
  let (found, status, m) := inputs "wc" paths m
  let counts (cs : Octets) : List Nat :=
    (if letters.contains 'l' then [cs.count '\n'] else []) ++ (if letters.contains 'w' then [wordCount cs] else []) ++
      (if letters.contains 'c' || letters.contains 'm' then [cs.length] else [])
  let width := if letters.length == 1 && found.length ≤ 1 then 1
    else if paths.isEmpty then 7 else (numeral (found.foldl (fun size entry => size + entry.2.length) 0)).length
  let row (numbers : List Nat) (name : Octets) : Octets :=
    [' '].intercalate (numbers.map fun (n : Nat) => ({ width } : Directive).padded (numeral n)) ++
      (if paths.isEmpty then [] else ' ' :: name) ++ ['\n']
  let rows := found.flatMap fun (name, cs) => row (counts cs) name
  let total := if found.length > 1 then row (counts (found.flatMap (·.2))) "total".toList else []
  (status, m.print (rows ++ total))

/-- A count given as `-n`, `-c` or a number behind a hyphen: whether it counts octets, the count, and the rest. -/
def countOption (arguments : List Octets) : Bool × Nat × List Octets :=
  match arguments with
  | ['-', 'n'] :: count :: rest => (false, ((number? count).getD 0).natAbs, rest)
  | ['-', 'c'] :: count :: rest => (true, ((number? count).getD 0).natAbs, rest)
  | ('-' :: 'n' :: count) :: rest => (false, ((number? count).getD 0).natAbs, rest)
  | ('-' :: 'c' :: count) :: rest => (true, ((number? count).getD 0).natAbs, rest)
  | ('-' :: d :: count) :: rest =>
    if (digit? 10 d).isSome then (false, ((number? (d :: count)).getD 0).natAbs, rest) else (false, 10, arguments)
  | _ => (false, 10, arguments)

/-- The lines of a text, with their ends. -/
def linesWithEnds (cs : Octets) : List Octets :=
  match cs with
  | [] => []
  | c :: rest =>
    match c, linesWithEnds rest with
    | '\n', lines => ['\n'] :: lines
    | c, line :: lines => (c :: line) :: lines
    | c, [] => [[c]]

/-- Prints the start of files. -/
def head : Utility := fun arguments m =>
  let (octets, count, paths) := countOption arguments
  let (cs, status, m) := input "head" paths m
  (status, m.print (if octets then cs.take count else ((linesWithEnds cs).take count).flatten))

/-- Prints the end of files. -/
def tail : Utility := fun arguments m =>
  let (octets, count, paths) := countOption arguments
  let (cs, status, m) := input "tail" paths m
  let lines := linesWithEnds cs
  (status, m.print (if octets then cs.drop (cs.length - count) else (lines.drop (lines.length - count)).flatten))

/-- Prints lines in order. -/
def sort : Utility := fun arguments m =>
  let (letters, paths) := options arguments
  let (cs, status, m) := input "sort" paths m
  let lines := (linesWithEnds cs).map fun line => if line.getLast? == some '\n' then line.dropLast else line
  let precedes (a b : Octets) : Bool :=
    if letters.contains 'n' then decide ((number? a).getD 0 ≤ (number? b).getD 0) else !decide (b < a)
  let sorted := lines.mergeSort precedes
  let sorted := if letters.contains 'r' then sorted.reverse else sorted
  let sorted := if letters.contains 'u' then sorted.eraseDups else sorted
  (status, m.print (sorted.flatMap (· ++ ['\n'])))

/-! ## Replacing -/

/-- The classes of octets that a set may name. -/
def octetClasses : List (String × (Char → Bool)) :=
  [("alpha", Char.isAlpha), ("digit", Char.isDigit), ("alnum", Char.isAlphanum), ("upper", Char.isUpper),
    ("lower", Char.isLower), ("space", isSpace), ("blank", fun c => c == ' ' || c == '\t'),
    ("punct", fun c => '!' ≤ c && c ≤ '~' && !c.isAlphanum), ("cntrl", fun c => c < ' ' || c == '\x7F'),
    ("print", fun c => ' ' ≤ c && c ≤ '~'), ("graph", fun c => '!' ≤ c && c ≤ '~')]

/-- All octets. -/
def allOctets : Octets :=
  (List.range 256).map Char.ofNat

/-- The octets that a set with at most `fuel` octets stands for. -/
def octetSet (fuel : Nat) (cs : Octets) : Octets :=
  match fuel, cs with
  | 0, _ | _, [] => []
  | fuel + 1, '[' :: ':' :: rest =>
    let name := rest.takeWhile (· != ':')
    match octetClasses.lookup (String.ofList name) with
    | some inClass => allOctets.filter inClass ++ octetSet fuel (rest.drop (name.length + 2))
    | none => '[' :: octetSet fuel (':' :: rest)
  | fuel + 1, '\\' :: rest =>
    match escape? rest with
    | some (c, length) => c :: octetSet fuel (rest.drop length)
    | none => octetSet fuel rest
  | fuel + 1, a :: '-' :: b :: rest =>
    allOctets.filter (fun c => a ≤ c && c ≤ b) ++ octetSet fuel rest
  | fuel + 1, c :: rest => c :: octetSet fuel rest

/-- The text in which no octet of a set follows itself. -/
def squeezed (set : Octets) : Octets → Octets
  | [] => []
  | c :: rest =>
    match squeezed set rest with
    | d :: more => if c == d && set.contains c then d :: more else c :: d :: more
    | [] => [c]

/-- Replaces, deletes or squeezes octets. -/
def tr : Utility := fun arguments m =>
  let (letters, sets) := options arguments
  let sets := sets.map fun cs => octetSet cs.length cs
  let first := sets[0]?.getD []
  let first := if letters.contains 'c' || letters.contains 'C' then allOctets.filter (!first.contains ·) else first
  let (cs, m) := m.readAll
  let cs :=
    if letters.contains 'd' then cs.filter (!first.contains ·)
    else
      match sets[1]? with
      | none => cs
      | some second => cs.map fun c =>
        let position := first.idxOf c
        if position < first.length then (second[position]?.or second.getLast?).getD c else c
  let cs := if letters.contains 's' then squeezed (sets[1]?.getD first) cs else cs
  (0, m.print cs)

/-! ## Paths -/

/-- A path without separators at its end. -/
def withoutEnd (path : Octets) : Octets :=
  (path.reverse.dropWhile (· == '/')).reverse

/-- The last name of a path. -/
def lastName (path : Octets) : Octets :=
  let short := withoutEnd path
  if short.isEmpty then (if path.isEmpty then [] else ['/'])
  else (short.reverse.takeWhile (· != '/')).reverse

/-- Prints the last name of a path, without an ending if it is more than that. -/
def basename : Utility := fun arguments m =>
  match options arguments with
  | (_, path :: ending) =>
    let name := lastName path
    let ending := ending.head?.getD []
    let name := if ending.isSuffixOf name && ending.length < name.length then name.take (name.length - ending.length)
      else name
    (0, m.print (name ++ ['\n']))
  | _ => (1, m.warn "basename: missing operand\nTry 'basename --help' for more information.")

/-- Prints a path without its last name. -/
def dirname : Utility := fun arguments m =>
  match options arguments with
  | (_, path :: _) =>
    let short := withoutEnd path
    let above := withoutEnd (short.take (short.length - (lastName short).length))
    let shown := if !above.isEmpty then above else if path.head? == some '/' then ['/'] else ['.']
    (0, m.print (shown ++ ['\n']))
  | _ => (1, m.warn "dirname: missing operand\nTry 'dirname --help' for more information.")

/-- Changes the working directory. -/
def cd : Utility := fun arguments m =>
  let path := ((options arguments).2.head?.or (m.get? "HOME".toList)).getD []
  if path.isEmpty then (0, m)
  else
    match m.find path with
    | .ok (place, .directory _) => (0, { m with place })
    | _ => (2, m.report ("cd: can't cd to " ++ Octets.toText path))

/-- Prints the names in directories. -/
def ls : Utility := fun arguments m =>
  let paths := match (options arguments).2 with
    | [] => [['.']]
    | paths => paths
  paths.foldl (fun (status, m) path =>
    match m.find path with
    | .ok (_, .directory entries) =>
      let names := (entries.map (Octets.ofBytes ·.1)).filter (·.head? != some '.')
      (status, m.print ((names.mergeSort fun a b => !decide (b < a)).flatMap (· ++ ['\n'])))
    | .ok _ => (status, m.print (path ++ ['\n']))
    | .error e => (2, m.warn ("ls: cannot access '" ++ Octets.toText path ++ "': " ++ e.description))) (0, m)

/-- Makes directories. -/
def mkdir : Utility := fun arguments m =>
  let (letters, paths) := options arguments
  paths.foldl (fun (status, m) path =>
    match Files.locate m.files m.place (Octets.toBytes path) with
    | .ok (place, none) => (status, { m with files := m.files.put place .empty })
    | .ok (_, some node) =>
      if letters.contains 'p' && node.isDirectory then (status, m)
      else (1, m.warn ("mkdir: cannot create directory '" ++ Octets.toText path ++ "': File exists"))
    | .error e =>
      if letters.contains 'p' && e == .notFound then
        (status, { m with files := m.files.put (Files.below m.place (Octets.toBytes path)) .empty })
      else (1, m.warn ("mkdir: cannot create directory '" ++ Octets.toText path ++ "': " ++ e.description))) (0, m)

/-- Removes files. -/
def rm : Utility := fun arguments m =>
  let (letters, paths) := options arguments
  let isForced := letters.contains 'f'
  paths.foldl (fun (status, m) path =>
    match m.find path with
    | .ok (place, node) =>
      if node.isDirectory && !(letters.contains 'r' || letters.contains 'R') then
        (1, m.warn ("rm: cannot remove '" ++ Octets.toText path ++ "': Is a directory"))
      else (status, { m with files := m.files.remove place })
    | .error e =>
      if isForced then (status, m)
      else (1, m.warn ("rm: cannot remove '" ++ Octets.toText path ++ "': " ++ e.description))) (0, m)

/-- Makes empty files. -/
def touch : Utility := fun arguments m =>
  (options arguments).2.foldl (fun (status, m) path =>
    match Files.locate m.files m.place (Octets.toBytes path) with
    | .ok (place, none) => (status, { m with files := m.files.put place (.file .empty false) })
    | .ok _ => (status, m)
    | .error e => (1, m.warn ("touch: cannot touch '" ++ Octets.toText path ++ "': " ++ e.description))) (0, m)

/-! ## The rest -/

/-- Decides on a condition. -/
def test : Utility := fun arguments m =>
  match condition m arguments with
  | .ok true => (0, m)
  | .ok false => (1, m)
  | .error complaint => (2, m.report ("test: " ++ complaint))

/-- Decides on a condition in brackets. -/
def bracket : Utility := fun arguments m =>
  if arguments.getLast? != some [']'] then (2, m.report "[: missing ]")
  else
    match condition m arguments.dropLast with
    | .ok true => (0, m)
    | .ok false => (1, m)
    | .error complaint => (2, m.report ("[: " ++ complaint))

/-- Prints numbers in a row. -/
def seq : Utility := fun arguments m =>
  let numbers := arguments.map fun cs => (number? cs).getD 0
  let (first, step, last) := match numbers with
    | [last] => (1, 1, last)
    | [first, last] => (first, 1, last)
    | first :: step :: last :: _ => (first, step, last)
    | [] => (1, 1, 0)
  let count := if step > 0 then (last - first) / step + 1 else if step < 0 then (first - last) / (-step) + 1 else 0
  (0, m.print ((List.range count.toNat).flatMap fun (k : Nat) => numeral (first + step * k) ++ ['\n']))

/-- Prints variables that programs get. -/
def printenv : Utility := fun arguments m =>
  match arguments with
  | [] => (0, m.print (m.environment.flatMap fun (name, value) => name ++ '=' :: value ++ ['\n']))
  | names =>
    names.foldl (fun (status, m) name =>
      match m.environment.lookup name with
      | some value => (status, m.print (value ++ ['\n']))
      | none => (1, m)) (0, m)

/-- Does nothing, with a status. -/
def idle (status : Nat) : Utility := fun _ m =>
  (status, m)

/-- The utilities that a shell has of its own. -/
def builtin : List (String × Utility) :=
  [(":", idle 0), ("true", idle 0), ("false", idle 1), ("echo", echo), ("printf", printf), ("pwd", pwd), ("cd", cd),
    ("test", test), ("[", bracket), ("wait", idle 0), ("umask", idle 0)]

/-- The utilities that are programs of their own. -/
def external : List (String × Utility) :=
  [("true", idle 0), ("false", idle 1), ("echo", plainEcho), ("printf", printf), ("pwd", pwd), ("test", test),
    ("cat", cat), ("tee", tee), ("wc", wc), ("head", head), ("tail", tail), ("sort", sort), ("tr", tr),
    ("basename", basename), ("dirname", dirname), ("ls", ls), ("mkdir", mkdir), ("rm", rm), ("touch", touch),
    ("seq", seq), ("sleep", idle 0), ("sync", idle 0), ("env", printenv), ("printenv", printenv)]

/-- The utility that a name stands for in a script. -/
def ofName? (name : Octets) : Option Utility :=
  (builtin.lookup (String.ofList name)).or (external.lookup (String.ofList name))

end Utility

end RecordGate.Shell
