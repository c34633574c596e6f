import RecordGate.Shell.Arithmetic
import RecordGate.Shell.Control
import RecordGate.Shell.Parser
import RecordGate.Shell.Pathname

/-!
# `RecordGate.Shell.Run` — running scripts

Words are expanded, and commands are run, with a budget that shrinks at every step down and at every turn of a loop.
A script that uses it up counts as killed.

## Contents
- `expand` — the marks of a word.
- `run` — a command.
- `shellEnding` — what a shell leaves.
-/

namespace RecordGate.Shell

open Files

/-- The names of the shell. -/
def shellNames : List String :=
  ["sh", "dash", "bash"]

/-! ## Parameters -/

/-- The value of a parameter, if it is set. -/
def Machine.parameter? (m : Machine) (name : Octets) : Option Octets :=
  match name with
  | ['#'] => some (numeral m.positional.length)
  | ['?'] => some (numeral m.status)
  | ['$'] => some (numeral Control.processNumber)
  | ['-'] => some (if m.stopsOnFailure then ['e'] else [])
  | ['!'] => none
  | ['@'] | ['*'] => if m.positional.isEmpty then none else some ([' '].intercalate m.positional)
  | name =>
    match digits 10 name with
    | (some 0, []) => some m.script
    | (some n, []) => m.positional[n - 1]?
    | _ => m.get? name

/-- The marks of all positional parameters. -/
def Machine.positionalMarks (m : Machine) (joinedOnes inQuotes : Bool) : List Mark :=
  if !inQuotes then [Mark.boundary].intercalate (m.positional.map (marksOf false))
  else if joinedOnes then marksOf true ((m.separators.take 1).intercalate m.positional)
  else if m.positional.isEmpty then [.absent]
  else [Mark.boundary].intercalate (m.positional.map fun cs => .present :: marksOf true cs)

/-- The machine in which these variables are as they were before. -/
def Machine.withVariablesOf (m before : Machine) (names : List Octets) : Machine :=
  let old := before.vars.filter fun v => names.contains v.1
  let rest := m.vars.filter fun v => !names.contains v.1
  { m with vars := old ++ rest }

/-- Runs a command with a scope of its own, of which only the status is kept. -/
def inSubshell (action : Action Unit) : Action Unit := do
  let before ← get
  tryCatch action fun flow => if flow == .killed then throw .killed else pure ()
  modify fun after => { after.withScope before.toScope with status := after.status }

/-- The status of a program that is killed. -/
def killedStatus : Nat :=
  137

/-- Runs something as a program of its own, which may be killed alone. -/
def asProcess (action : Action Unit) : Action Unit :=
  tryCatch action fun flow => if flow == .killed then finish killedStatus else throw flow

/-- The output of a command. -/
def outputOf (action : Action Unit) : Action Octets := do
  let before ← get
  let (index, started) := before.newStream []
  set started
  inSubshell do
    modify fun m => m.connect standardOutput (.stream index)
    action
  let after ← get
  pure (Octets.ofArray (after.streams[index]?.getD .empty))

/-- A text without the ends of lines at its end. -/
def withoutLineEnds (cs : Octets) : Octets :=
  (cs.reverse.dropWhile (· == '\n')).reverse

/-- Whether any part of a word is the output of a command. -/
def hasOutput (word : Word) : Bool :=
  word.any fun
    | .output .. => true
    | _ => false

/-! ## Redirections -/

/-- The channel to a file that is opened for writing, or why it cannot be opened. -/
def openForWriting (direction : Direction) (path : Octets) (m : Machine) : Except String Channel × Machine :=
  match Files.locate m.files m.place (Octets.toBytes path) with
  | .error .notFound => (.error ("cannot create " ++ Octets.toText path ++ ": Directory nonexistent"), m)
  | .error e => (.error ("cannot create " ++ Octets.toText path ++ ": " ++ e.description), m)
  | .ok (_, some (.directory _)) => (.error ("cannot create " ++ Octets.toText path ++ ": Is a directory"), m)
  | .ok (place, some (.file _ executable)) =>
    (.ok (.file place),
      if direction == .append then m else { m with files := m.files.put place (.file .empty executable) })
  | .ok (_, some _) => (.ok .nothing, m)
  | .ok (place, none) => (.ok (.file place), { m with files := m.files.put place (.file .empty false) })

/-- The channel of a redirection to this target, or why there is none. -/
def channelFor (direction : Direction) (target : Octets) (m : Machine) : Except String Channel × Machine :=
  match direction with
  | .input =>
    match m.contentOf target with
    | .error .notFound => (.error ("cannot open " ++ Octets.toText target ++ ": No such file"), m)
    | .error e => (.error ("cannot open " ++ Octets.toText target ++ ": " ++ e.description), m)
    | .ok cs =>
      let (index, m) := m.newStream cs
      (.ok (.stream index), m)
  | .text =>
    let (index, m) := m.newStream target
    (.ok (.stream index), m)
  | .duplicate =>
    match number? target with
    | some (.ofNat n) =>
      match m.channels.lookup n with
      | some channel => (.ok channel, m)
      | none => (.error (Octets.toText target ++ ": Bad file descriptor"), m)
    | _ => (.error "Bad fd number", m)
  | direction => openForWriting direction target m

/-! ## Expansion and commands -/

mutual

/-- The marks of a word. -/
def expand (fuel : Nat) (word : Word) : Action (List Mark) :=
  match fuel with
  | 0 => throw .killed
  | fuel + 1 => do
    let marks ← word.mapM (expandPart fuel)
    pure marks.flatten

/-- The marks of a part of a word. -/
def expandPart (fuel : Nat) (part : Part) : Action (List Mark) :=
  match fuel with
  | 0 => throw .killed
  | fuel + 1 =>
    match part with
    | .plain cs => pure (cs.map fun c => .octet c false false)
    | .quoted cs => pure (.present :: cs.map fun c => .octet c true false)
    | .parameter name use inQuotes => do
      let m ← get
      match use with
      | .value =>
        if name == ['@'] || name == ['*'] then pure (m.positionalMarks (name == ['*']) inQuotes)
        else if m.refusesUnset && (m.parameter? name).isNone then
          abort (Octets.toText name ++ ": parameter not set")
        else pure (marksOf inQuotes ((m.parameter? name).getD []))
      | use => expandUse fuel name use inQuotes
    | .output command inQuotes => do
      let cs ← outputOf (run fuel false command)
      pure (marksOf inQuotes (withoutLineEnds (cs.filter (· != '\x00'))))
    | .arithmetic expression inQuotes => do
      let text := joinedText (← expand fuel expression)
      let m ← get
      match Arithmetic.expression text with
      | .error complaint =>
        abort ("arithmetic expression: " ++ complaint ++ ": \"" ++ Octets.toText text ++ "\"")
      | .ok e =>
        match e.value (fun name => (m.parameter? name).getD []) [] with
        | .error .divisionByZero =>
          abort ("arithmetic expression: division by zero: \"" ++ Octets.toText text ++ "\"")
        | .error (.notNumber cs) => abort ("Illegal number: " ++ Octets.toText cs)
        | .ok (n, made) =>
          set (made.reverse.foldl (fun (m : Machine) (name, n) => m.assign name (numeral n)) m)
          pure (marksOf inQuotes (numeral n))

/-- The marks of a parameter that is not used as it is. -/
def expandUse (fuel : Nat) (name : Octets) (use : Use) (inQuotes : Bool) : Action (List Mark) :=
  match fuel with
  | 0 => throw .killed
  | fuel + 1 => do
    let m ← get
    let value := m.parameter? name
    match use with
    | .value => pure (marksOf inQuotes (value.getD []))
    | .length => pure (marksOf inQuotes (numeral (value.getD []).length))
    | .fallback kind orEmpty word =>
      let isSet := value.any fun cs => !(orEmpty && cs.isEmpty)
      match kind, isSet with
      | .alternative, true => do
        pure (substituted inQuotes (← expand fuel word))
      | .alternative, false => pure []
      | _, true => pure (marksOf inQuotes (value.getD []))
      | .value, false => do
        pure (substituted inQuotes (← expand fuel word))
      | .assigned, false => do
        let cs := joinedText (← expand fuel word)
        modify fun m => m.assign name cs
        pure (marksOf inQuotes cs)
      | .complaint, false => do
        let cs := joinedText (← expand fuel word)
        let text := if !cs.isEmpty then Octets.toText cs
          else if orEmpty then "parameter not set or null" else "parameter not set"
        abort (Octets.toText name ++ ": " ++ text)
    | .strip atEnd longest pattern => do
      let pattern := atoms (joined (← expand fuel pattern))
      pure (marksOf inQuotes (stripped atEnd longest pattern (value.getD [])))

/-- Applies redirections. Gives whether all of them succeeded. -/
def redirect (fuel : Nat) (redirections : List Redirection) : Action Bool :=
  match fuel with
  | 0 => throw .killed
  | fuel + 1 =>
    match redirections with
    | [] => pure true
    | .mk descriptor direction target :: rest => do
      let cs := joinedText (← expand fuel target)
      let m ← get
      if direction == .duplicate && cs == ['-'] then
        set (m.disconnect descriptor)
        redirect fuel rest
      else match channelFor direction cs m with
      | (.error complaint, m) =>
        set { m.report complaint with status := 2 }
        pure false
      | (.ok channel, m) =>
        set (m.connect descriptor channel)
        redirect fuel rest

/-- Runs something with redirections, which end with it. -/
def redirected (fuel : Nat) (redirections : List Redirection) (action : Action Unit) : Action Unit :=
  match fuel with
  | 0 => throw .killed
  | fuel + 1 => do
    let before ← get
    let restore : Action Unit := modify fun m => { m with channels := before.channels }
    if ← redirect fuel redirections then
      tryCatch action fun flow => do
        restore
        throw flow
    restore

/-- Runs a command. Where its status is looked at, `tested`, a failure does not end the script. -/
def run (fuel : Nat) (tested : Bool) (command : Command) : Action Unit :=
  match fuel with
  | 0 => throw .killed
  | fuel + 1 =>
    match command with
    | .simple line assignments words redirections => do
      modify fun m => { m with line }
      runSimple fuel assignments words redirections
      stopIfFailed tested
    | .sequence commands =>
      if commands.isEmpty then pure () else commands.forM (run fuel tested)
    | .both left right => do
      run fuel true left
      let m ← get
      if m.status == 0 then run fuel tested right
    | .either left right => do
      run fuel true left
      let m ← get
      if m.status != 0 then run fuel tested right
    | .negated command => do
      run fuel true command
      modify fun m => { m with status := if m.status == 0 then 1 else 0 }
    | .pipeline stages => do
      runStages fuel none stages
      stopIfFailed tested
    | .subshell command => do
      inSubshell (run fuel tested command)
      stopIfFailed tested
    | .redirected command redirections => redirected fuel redirections (run fuel tested command)
    | .choose branches otherwise => runBranches fuel tested branches otherwise
    | .loop whileTrue condition body => runLoop fuel tested whileTrue condition body 0
    | .each name words body => do
      let m ← get
      let items ← match words with
        | none => pure m.positional
        | some words => do
          let marks ← words.mapM (expand fuel)
          pure (marks.flatMap m.argumentsOf)
      finish 0
      runEach fuel tested name items body
    | .select subject branches => do
      let cs := joinedText (← expand fuel subject)
      finish 0
      runSelection fuel tested cs branches
    | .define name body => modify fun m =>
      { m with functions := (name, body) :: m.functions.filter (·.1 != name), status := 0 }
    | .malformed line complaint => do
      modify fun m => { m with line }
      abort complaint
where
  /-- Ends the script if the last command failed and failures end it. -/
  stopIfFailed (tested : Bool) : Action Unit := do
    let m ← get
    if m.status != 0 && !tested && m.stopsOnFailure then throw .exited

/-- Runs the stages of a pipeline, of which the first one reads the stream `input`. -/
def runStages (fuel : Nat) (input : Option Nat) (stages : List Command) : Action Unit :=
  match fuel with
  | 0 => throw .killed
  | fuel + 1 =>
    let connected (m : Machine) : Machine := match input with
      | some index => m.connect standardInput (.stream index)
      | none => m
    match stages with
    | [] => pure ()
    | [last] => inSubshell do
      modify connected
      run fuel false last
    | stage :: rest => do
      let m ← get
      let (index, m) := m.newStream []
      set m
      inSubshell do
        modify fun m => (connected m).connect standardOutput (.stream index)
        run fuel false stage
      runStages fuel (some index) rest

/-- Runs the first branch whose condition succeeds. -/
def runBranches (fuel : Nat) (tested : Bool) (branches : List (Command × Command)) (otherwise : Option Command) :
    Action Unit :=
  match fuel with
  | 0 => throw .killed
  | fuel + 1 =>
    match branches with
    | [] =>
      match otherwise with
      | some command => run fuel tested command
      | none => finish 0
    | (condition, body) :: rest => do
      run fuel true condition
      let m ← get
      if m.status == 0 then run fuel tested body else runBranches fuel tested rest otherwise

/-- Runs a loop whose last turn had this status. -/
def runLoop (fuel : Nat) (tested whileTrue : Bool) (condition body : Command) (status : Nat) : Action Unit :=
  match fuel with
  | 0 => throw .killed
  | fuel + 1 => do
    run fuel true condition
    let m ← get
    if (m.status == 0) != whileTrue then finish status
    else
      let goesOn ← runTurn fuel tested body
      let m ← get
      if goesOn then runLoop fuel tested whileTrue condition body m.status

/-- Runs a loop over texts. -/
def runEach (fuel : Nat) (tested : Bool) (name : Octets) (items : List Octets) (body : Command) : Action Unit :=
  match fuel with
  | 0 => throw .killed
  | fuel + 1 =>
    match items with
    | [] => pure ()
    | item :: rest => do
      modify fun m => m.assign name item
      if ← runTurn fuel tested body then runEach fuel tested name rest body

/-- Runs the body of a loop once. Gives whether the loop goes on. -/
def runTurn (fuel : Nat) (tested : Bool) (body : Command) : Action Bool :=
  match fuel with
  | 0 => throw .killed
  | fuel + 1 =>
    let enclose (change : Nat → Nat) : Action Unit := modify fun m => { m with loops := change m.loops }
    tryCatch (do
      enclose (· + 1)
      run fuel tested body
      enclose (· - 1)
      pure true) fun flow => do
        enclose (· - 1)
        match flow with
        | .broken loops => if loops ≤ 1 then pure false else throw (.broken (loops - 1))
        | .continued loops => if loops ≤ 1 then pure true else throw (.continued (loops - 1))
        | flow => throw flow

/-- Runs the first branch with a pattern that matches a text. -/
def runSelection (fuel : Nat) (tested : Bool) (subject : Octets) (branches : List (List Word × Command)) :
    Action Unit :=
  match fuel with
  | 0 => throw .killed
  | fuel + 1 =>
    match branches with
    | [] => pure ()
    | (patterns, body) :: rest => do
      let found ← patterns.anyM fun pattern => do
        pure (matchesAll (atoms (joined (← expand fuel pattern))) subject)
      if found then run fuel tested body else runSelection fuel tested subject rest

/-- Runs a command of words. -/
def runSimple (fuel : Nat) (assignments : List (Octets × Word)) (words : List Word) (redirections : List Redirection) :
    Action Unit :=
  match fuel with
  | 0 => throw .killed
  | fuel + 1 => do
    let marks ← words.mapM (expand fuel)
    let m ← get
    let values ← assignments.mapM fun (name, word) => do
      let marks ← expand fuel word
      pure (name, joinedText marks)
    match marks.flatMap m.argumentsOf with
    | [] =>
      if !(words.any hasOutput || assignments.any fun (_, word) => hasOutput word) then finish 0
      modify fun m => values.foldl (fun (m : Machine) (name, value) => m.assign name value) m
      redirected fuel redirections (pure ())
    | name :: arguments =>
      if name == "exec".toList && arguments.isEmpty then
        if ← redirect fuel redirections then finish 0
      else redirected fuel redirections (runNamed fuel values name arguments)

/-- Runs a command by its name, with variables that are set for it. -/
def runNamed (fuel : Nat) (values : List (Octets × Octets)) (name : Octets) (arguments : List Octets) : Action Unit :=
  match fuel with
  | 0 => throw .killed
  | fuel + 1 => do
    let before ← get
    let assigned := values.foldl (fun (m : Machine) (name, value) => m.assign name value) before
    match Control.special.lookup (String.ofList name) with
    | some control =>
      set assigned
      control arguments
    | none =>
      set (values.foldl (fun (m : Machine) (name, _) => m.exporting name) assigned)
      runOrdinary fuel name arguments
      modify fun m => m.withVariablesOf before (values.map (·.1))

/-- Runs a function, a command of the shell or a program by its name. -/
def runOrdinary (fuel : Nat) (name : Octets) (arguments : List Octets) : Action Unit :=
  match fuel with
  | 0 => throw .killed
  | fuel + 1 => do
    let m ← get
    match m.functions.lookup name with
    | some body =>
      set { m with positional := arguments, hidden := [] }
      let restore : Action Unit := modify fun after =>
        let after := after.hidden.foldl (fun (after : Machine) (name, old) => after.restore name old) after
        { after with positional := m.positional, hidden := m.hidden }
      tryCatch (run fuel false body) fun flow => do
        restore
        if flow != .returned then throw flow
      restore
    | none =>
      match String.ofList name, arguments with
      | "eval", words => run fuel false (program ([' '].intercalate words))
      | "command", ['-', 'v'] :: names => describeNames false names
      | "type", names => describeNames true names
      | "command", name :: arguments => runOrdinary fuel name arguments
      | "exec", name :: arguments => do
        runOrdinary fuel name arguments
        throw .exited
      | ".", path :: _ =>
        match m.contentOf path with
        | .ok cs => run fuel false (program cs)
        | .error _ => abort (".: cannot open " ++ Octets.toText path ++ ": No such file")
      | "env", words => runWithin fuel words
      | name', _ =>
        match (Control.ordinary.lookup name'), Utility.ofName? name with
        | some control, _ => control arguments
        | none, some utility =>
          let (status, m) := utility arguments m
          set { m with status }
        | none, none =>
          if shellNames.contains (String.ofList (Utility.lastName name)) then
            asProcess (runShell fuel name arguments)
          else if name.contains '/' then runFile fuel name arguments
          else set { m.report (Octets.toText name ++ ": not found") with status := 127 }
where
  /-- Tells what names stand for, in words if `inWords`. -/
  describeNames (inWords : Bool) (names : List Octets) : Action Unit := do
    finish 0
    names.forM fun name => modify fun m =>
      let known := String.ofList name
      let say (short : Octets) (words : String) : Machine :=
        m.print ((if inWords then name ++ words.toList else short) ++ ['\n'])
      if (m.functions.lookup name).isSome then say name " is a shell function"
      else if (Control.special.lookup known).isSome then say name " is a special shell builtin"
      else if (Utility.builtin.lookup known).isSome || (Control.ordinary.lookup known).isSome then
        say name " is a shell builtin"
      else if (Utility.external.lookup known).isSome || shellNames.contains known then
        say ("/usr/bin/".toList ++ name) (" is /usr/bin/" ++ known)
      else
        { (if inWords then m.print (name ++ ": not found\n".toList) else m) with status := 127 }

/-- Runs a program with changed variables, or prints the variables. -/
def runWithin (fuel : Nat) (words : List Octets) : Action Unit :=
  match fuel with
  | 0 => throw .killed
  | fuel + 1 => do
    let before ← get
    let isEmptied := words.head? == some ['-', 'i'] || words.head? == some ['-']
    let words := if isEmptied then words.tail else words
    let assignments := words.takeWhile (·.contains '=')
    if isEmptied then set { before with vars := [] }
    modify fun m => assignments.foldl (fun m word =>
      let (name, value) := Control.assignment word
      (m.assign name (value.getD [])).exporting name) m
    match words.drop assignments.length with
    | [] =>
      let m ← get
      let (status, m) := Utility.printenv [] m
      set { m with status }
    | name :: arguments => runOrdinary fuel name arguments
    modify fun m => { m with vars := before.vars }

/-- Runs commands up to their end, and then what was arranged for that. -/
def runToEnd (fuel : Nat) (commands : Command) : Action Unit :=
  match fuel with
  | 0 => throw .killed
  | fuel + 1 => do
    let untilExit (command : Command) : Action Unit :=
      tryCatch (run fuel false command) fun flow => if flow == .killed then throw .killed else pure ()
    untilExit commands
    let m ← get
    if !m.onExit.isEmpty then
      set { m with onExit := [] }
      let hasExited ← tryCatch (do
        run fuel false (program m.onExit)
        pure false) fun flow => if flow == .killed then throw .killed else pure true
      if !hasExited then finish m.status

/-- Runs a shell: the text behind `-c`, the file that is named, or nothing. -/
def runShell (fuel : Nat) (name : Octets) (arguments : List Octets) : Action Unit :=
  match fuel with
  | 0 => throw .killed
  | fuel + 1 => do
    let options := arguments.takeWhile fun word => word.head? == some '-' && word.length > 1
    let rest := arguments.drop options.length
    let m ← get
    let runText (zero : Octets) (rest : List Octets) (text : Octets) : Action Unit := do
      set { m.child zero rest with
        stopsOnFailure := options.any (·.contains 'e'), refusesUnset := options.any (·.contains 'u') }
      runToEnd fuel (program text)
    let failed (text : String) : Action Unit :=
      set { m.warn (Octets.toText name ++ ": 0: " ++ text) with status := 2 }
    inSubshell (match options.any (·.contains 'c'), rest with
      | true, text :: rest => runText (rest.head?.getD name) rest.tail text
      | true, [] => failed "-c requires an argument"
      | false, [] => do
        let (text, read) := m.readAll
        set read
        runText name [] text
      | false, path :: rest =>
        match m.contentOf path with
        | .ok text => runText path rest text
        | .error _ => failed ("cannot open " ++ Octets.toText path ++ ": No such file"))

/-- Runs a script in a file, with a scope of its own. -/
def runFile (fuel : Nat) (path : Octets) (arguments : List Octets) : Action Unit :=
  match fuel with
  | 0 => throw .killed
  | fuel + 1 => do
    let m ← get
    match m.find path with
    | .error _ => set { m.report (Octets.toText path ++ ": not found") with status := 127 }
    | .ok (_, .tool name) => runOrdinary fuel name.toList arguments
    | .ok (_, .file content true) =>
      asProcess (inSubshell do
        set (m.child path arguments)
        runToEnd fuel (program (Octets.ofArray content)))
    | .ok _ => set { m.report (Octets.toText path ++ ": Permission denied") with status := 126 }

end

/-! ## Scripts -/

/-- The number of steps down and turns of a loop after which a script counts as killed. -/
def patience : Nat :=
  10000000

/-- What a shell leaves that is run on a machine. -/
def shellEnding (m : Machine) (name : Octets) (arguments : List Octets) : Ending :=
  match (runShell patience name arguments).run m with
  | (.error .killed, m) => m.ending none
  | (_, m) => m.ending (some m.status)

end RecordGate.Shell
