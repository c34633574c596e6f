import RecordGate.Shell.Syntax

/-!
# `RecordGate.Shell.Parser` — scripts from texts

A script is read line by line, as far as lines are complete commands; what cannot be read becomes a command that
complains when it is its turn. Reading descends through the grammar with a budget that shrinks at every step down,
so that it ends for every text; the budget of `program` is a multiple of the length of the text.

## Contents
- `Source`, `Reader` — a text that is being read, and what reads it.
- `Enclosure`, `parts` — words, and what ends them.
- `sequence`, `command`, `simple` — commands.
- `program` — a whole script.
-/

namespace RecordGate.Shell

/-! ## Sources -/

/-- A text that is being read, and the number of the line it stands in. -/
structure Source where
  rest : Octets
  line : Nat

/-- Why a text cannot be read, and in which line. -/
structure Complaint where
  line : Nat
  text : String

/-- Reads a text. -/
abbrev Reader := StateT Source (Except Complaint)

/-- Stops with a complaint about what a substitution is made of. -/
def badSubstitution {α : Type} : Reader α := do
  let s ← get
  throw ⟨s.line, "Bad substitution"⟩

/-- Stops with a complaint. -/
def complain {α : Type} (text : String) : Reader α := do
  let s ← get
  throw ⟨s.line, "Syntax error: " ++ text⟩

/-- What is left of the text. -/
def remaining : Reader Octets := do
  let s ← get
  pure s.rest

/-- Passes over octets. -/
def advance (count : Nat) : Reader Unit :=
  modify fun s => ⟨s.rest.drop count, s.line + (s.rest.take count).count '\n'⟩

/-- What is left behind blanks, continued lines and comments, and with `lines` also behind ends of lines. -/
def skipped (lines inComment : Bool) : Octets → Nat → Source
  | [], line => ⟨[], line⟩
  | c :: rest, line =>
    if c == '\n' then
      if lines then skipped lines false rest (line + 1) else ⟨c :: rest, line⟩
    else if inComment then skipped lines true rest line
    else if c == ' ' || c == '\t' then skipped lines false rest line
    else if c == '#' then skipped lines true rest line
    else
      match c, rest with
      | '\\', '\n' :: rest => skipped lines false rest (line + 1)
      | _, _ => ⟨c :: rest, line⟩

/-- Passes over blanks. -/
def skipBlanks : Reader Unit :=
  modify fun s => skipped false false s.rest s.line

/-- Passes over blanks and ends of lines. -/
def skipLines : Reader Unit :=
  modify fun s => skipped true false s.rest s.line

/-- Whether an octet ends a word. -/
def endsWord (c : Char) : Bool :=
  [' ', '\t', '\n', ';', '&', '|', '(', ')', '<', '>'].contains c

/-- The octets up to the end of a word, whatever they are. -/
def upcoming : Reader Octets := do
  pure ((← remaining).takeWhile fun c => !endsWord c)

/-- Whether an octet may start a name. -/
def isNameStart (c : Char) : Bool :=
  ('a' ≤ c && c ≤ 'z') || ('A' ≤ c && c ≤ 'Z') || c == '_'

/-- Whether an octet may stand in a name. -/
def isNamePart (c : Char) : Bool :=
  isNameStart c || ('0' ≤ c && c ≤ '9')

/-- Whether a text is a name. -/
def isName : Octets → Bool
  | [] => false
  | c :: rest => isNameStart c && rest.all isNamePart

/-- The words that end a sequence of commands. -/
def closers : List String :=
  ["then", "do", "done", "fi", "else", "elif", "esac", "\x7d"]

/-- The words with a meaning of their own at the start of a command. -/
def reserved : List String :=
  closers ++ ["if", "while", "until", "for", "case", "in", "\x7b", "!"]

/-- How a complaint names what stands next. -/
def nextName : Reader String := do
  match ← remaining with
  | [] => pure "end of file"
  | '\n' :: _ => pure "newline"
  | '&' :: '&' :: _ => pure "\"&&\""
  | '|' :: '|' :: _ => pure "\"||\""
  | ';' :: ';' :: _ => pure "\";;\""
  | c :: _ =>
    if endsWord c then pure (String.ofList ['"', c, '"'])
    else
      let word := String.ofList (← upcoming)
      pure (if reserved.contains word then "\"" ++ word ++ "\"" else "word")

/-- Complains about what stands next. -/
def unexpected {α : Type} : Reader α := do
  complain ((← nextName) ++ " unexpected")

/-- Passes over this text. -/
def expect (text : String) : Reader Unit := do
  if text.toList.isPrefixOf (← remaining) then advance text.length
  else complain ((← nextName) ++ " unexpected (expecting \"" ++ text ++ "\")")

/-- Passes over this word, if it stands next. -/
def keyword (word : String) : Reader Bool := do
  if (← upcoming) == word.toList then
    advance word.length
    pure true
  else pure false

/-- Passes over this word, which has to stand next. -/
def expectWord (word : String) : Reader Unit := do
  skipLines
  if !(← keyword word) then complain ((← nextName) ++ " unexpected (expecting \"" ++ word ++ "\")")

/-! ## Words -/

/-- What a word, or a text that is read like one, is enclosed by. -/
inductive Enclosure where
  /-- Nothing: the word ends where the next one may start. -/
  | none
  /-- Quotation marks. -/
  | quotes
  /-- Braces, perhaps inside quotation marks. -/
  | braces (quoted : Bool)
  /-- Nothing: the text ends where the document does. -/
  | document
  /-- Two parentheses, with as many others open inside. -/
  | arithmetic (depth : Nat)

/-- Whether what is enclosed counts as quoted. -/
def Enclosure.isQuoted : Enclosure → Bool
  | .none | .braces false => false
  | _ => true

/-- Whether an octet ends what is enclosed. -/
def Enclosure.endsAt (e : Enclosure) (c : Char) : Bool :=
  match e with
  | .none => endsWord c
  | .quotes => c == '"'
  | .braces _ => c == '\x7d'
  | .document => false
  | .arithmetic depth => depth == 0 && c == ')'

/-- The complaint about what is never closed. -/
def Enclosure.complaint? : Enclosure → Option String
  | .none | .document => Option.none
  | .quotes => some "Unterminated quoted string"
  | .braces _ => some "Missing '\x7d'"
  | .arithmetic _ => some "Missing '))'"

/-- What encloses the text behind an octet. -/
def Enclosure.behind (e : Enclosure) (c : Char) : Enclosure :=
  match e with
  | .arithmetic depth => .arithmetic (if c == '(' then depth + 1 else if c == ')' then depth - 1 else depth)
  | e => e

/-- Whether a backslash between quotation marks takes the meaning of an octet away. -/
def isEscapable (c : Char) : Bool :=
  c == '$' || c == '`' || c == '"' || c == '\\'

/-- A word with an octet before it that stands for itself. -/
def Enclosure.cons (e : Enclosure) (c : Char) (word : Word) : Word :=
  match e.isQuoted, word with
  | true, .quoted cs :: word => .quoted (c :: cs) :: word
  | true, word => .quoted [c] :: word
  | false, .plain cs :: word => .plain (c :: cs) :: word
  | false, word => .plain [c] :: word

/-- The command inside grave accents, and the number of octets up to the closing one. -/
def accented (inQuotes : Bool) : Octets → Option (Octets × Nat)
  | [] => none
  | '`' :: _ => some ([], 1)
  | '\\' :: c :: rest =>
    (accented inQuotes rest).map fun (cs, count) =>
      (if c == '$' || c == '`' || c == '\\' || (inQuotes && c == '"') then c :: cs else '\\' :: c :: cs, count + 2)
  | c :: rest => (accented inQuotes rest).map fun (cs, count) => (c :: cs, count + 1)

/-- The lines of a document up to its delimiter, and what follows that. -/
def document (stripTabs : Bool) (delimiter : Octets) (lines : List Octets) : Octets × List Octets :=
  match lines with
  | [] => ([], [])
  | line :: rest =>
    let line := if stripTabs then line.dropWhile (· == '\t') else line
    if line == delimiter then ([], rest)
    else
      let (body, rest) := document stripTabs delimiter rest
      (line ++ '\n' :: body, rest)

/-- The lines of a text. -/
def linesOf : Octets → List Octets
  | [] => []
  | '\n' :: rest => [] :: linesOf rest
  | c :: rest =>
    match linesOf rest with
    | [] => [[c]]
    | line :: lines => (c :: line) :: lines

/-- The text of a word that is not expanded. -/
def literalText (word : Word) : Octets :=
  word.flatMap fun
    | .plain cs | .quoted cs => cs
    | _ => []

/-- Whether any part of a word is quoted. -/
def hasQuotes (word : Word) : Bool :=
  word.any fun
    | .quoted _ => true
    | _ => false

/-- A descriptor in front of a redirection, and what follows it. -/
def descriptor (cs : Octets) : Option Nat × Octets :=
  match digits 10 cs with
  | (some n, c :: rest) => if c == '<' || c == '>' then (some n, c :: rest) else (none, cs)
  | _ => (none, cs)

/-- Whether a redirection stands next. -/
def redirectionNext : Reader Bool := do
  match (descriptor (← remaining)).2 with
  | '<' :: _ | '>' :: _ => pure true
  | _ => pure false

/-- The operators of redirections, longer ones first. -/
def redirectionOperators : List (String × Nat × Direction) :=
  [("<<-", 0, .text), ("<<", 0, .text), ("<&", 0, .duplicate), ("<", 0, .input),
    (">>", 1, .append), (">&", 1, .duplicate), (">|", 1, .output), (">", 1, .output)]

/-- The name of the parameter that a text starts with. -/
def parameterName (cs : Octets) : Octets :=
  match cs with
  | [] => []
  | c :: _ =>
    if isNameStart c then cs.takeWhile isNamePart
    else if '0' ≤ c && c ≤ '9' then [c]
    else if ['@', '*', '#', '?', '-', '$', '!'].contains c then [c]
    else []

/-! ## The grammar -/

mutual

/-- The parts of a word, or of a text that is read like one. -/
def parts (fuel : Nat) (e : Enclosure) : Reader Word :=
  match fuel with
  | 0 => complain "Too complex"
  | fuel + 1 => do
    match ← remaining with
    | [] =>
      match e.complaint? with
      | none => pure []
      | some text => complain text
    | c :: rest =>
      if e.endsAt c then pure []
      else
        match c, rest with
        | '\\', '\n' :: _ =>
          advance 2
          parts fuel e
        | '\\', d :: _ =>
          advance 2
          let cs := if e.isQuoted && !isEscapable d then ['\\', d] else [d]
          pure (.quoted cs :: (← parts fuel e))
        | '$', _ =>
          advance 1
          let part ← substitution fuel e.isQuoted
          pure (part :: (← parts fuel e))
        | '`', _ =>
          match accented e.isQuoted rest with
          | none => complain "EOF in backquote substitution"
          | some (cs, count) =>
            let s ← get
            let command ← sequence fuel false |>.run' ⟨cs, s.line⟩
            advance (count + 1)
            pure (.output command e.isQuoted :: (← parts fuel e))
        | '\'', _ =>
          if e.isQuoted then text fuel e c
          else
            let cs := rest.takeWhile (· != '\'')
            if cs.length == rest.length then complain "Unterminated quoted string"
            else
              advance (cs.length + 2)
              pure (.quoted cs :: (← parts fuel e))
        | '"', _ =>
          match e with
          | .document => text fuel e c
          | .arithmetic _ =>
            advance 1
            parts fuel e
          | _ =>
            advance 1
            let inside ← parts fuel .quotes
            advance 1
            pure (.quoted [] :: inside ++ (← parts fuel e))
        | _, _ => text fuel e c

/-- Octets that stand for themselves, of which `c` is the first, and the parts behind them. -/
def text (fuel : Nat) (e : Enclosure) (c : Char) : Reader Word :=
  match fuel with
  | 0 => complain "Too complex"
  | fuel + 1 => do
    advance 1
    pure (e.cons c (← parts fuel (e.behind c)))

/-- What is substituted behind a dollar sign. -/
def substitution (fuel : Nat) (inQuotes : Bool) : Reader Part :=
  match fuel with
  | 0 => complain "Too complex"
  | fuel + 1 => do
    let cs ← remaining
    match cs with
    | '\x7b' :: _ =>
      advance 1
      braced fuel inQuotes
    | '(' :: '(' :: _ =>
      advance 2
      let expression ← parts fuel (.arithmetic 0)
      expect "))"
      pure (.arithmetic expression inQuotes)
    | '(' :: _ =>
      advance 1
      let command ← sequence fuel false
      skipLines
      expect ")"
      pure (.output command inQuotes)
    | _ =>
      let name := parameterName cs
      if name.isEmpty then pure (if inQuotes then .quoted ['$'] else .plain ['$'])
      else
        advance name.length
        pure (.parameter name .value inQuotes)

/-- A parameter between braces. -/
def braced (fuel : Nat) (inQuotes : Bool) : Reader Part :=
  match fuel with
  | 0 => complain "Too complex"
  | fuel + 1 => do
    let cs ← remaining
    let measured := cs.head? == some '#' && !(parameterName (cs.drop 1)).isEmpty
    if measured then advance 1
    let cs ← remaining
    let name := match cs.takeWhile fun c => '0' ≤ c && c ≤ '9' with
      | [] => parameterName cs
      | number => number
    if name.isEmpty then (if cs.isEmpty then complain "Missing '\x7d'" else badSubstitution)
    else
      advance name.length
      let use ← if measured then pure .length else useOf fuel inQuotes
      expect "\x7d"
      pure (.parameter name use inQuotes)

/-- How a parameter between braces is used. -/
def useOf (fuel : Nat) (inQuotes : Bool) : Reader Use :=
  match fuel with
  | 0 => complain "Too complex"
  | fuel + 1 => do
    let cs ← remaining
    let orEmpty := cs.head? == some ':'
    if orEmpty then advance 1
    match ← remaining with
    | '-' :: _ =>
      advance 1
      pure (.fallback .value orEmpty (← parts fuel (.braces inQuotes)))
    | '=' :: _ =>
      advance 1
      pure (.fallback .assigned orEmpty (← parts fuel (.braces inQuotes)))
    | '+' :: _ =>
      advance 1
      pure (.fallback .alternative orEmpty (← parts fuel (.braces inQuotes)))
    | '?' :: _ =>
      advance 1
      pure (.fallback .complaint orEmpty (← parts fuel (.braces inQuotes)))
    | '%' :: '%' :: _ =>
      advance 2
      pure (.strip true true (← parts fuel (.braces false)))
    | '%' :: _ =>
      advance 1
      pure (.strip true false (← parts fuel (.braces false)))
    | '#' :: '#' :: _ =>
      advance 2
      pure (.strip false true (← parts fuel (.braces false)))
    | '#' :: _ =>
      advance 1
      pure (.strip false false (← parts fuel (.braces false)))
    | '\x7d' :: _ => if orEmpty then badSubstitution else pure .value
    | [] => complain "Missing '\x7d'"
    | _ => badSubstitution

/-- A redirection. A document is cut out of the lines behind this one. -/
def redirection (fuel : Nat) : Reader Redirection :=
  match fuel with
  | 0 => complain "Too complex"
  | fuel + 1 => do
    let cs ← remaining
    let (number, behind) := descriptor cs
    match redirectionOperators.find? fun op => op.1.toList.isPrefixOf behind with
    | none => unexpected
    | some (operator, standard, direction) =>
      advance (cs.length - behind.length + operator.length)
      skipBlanks
      let word ← parts fuel .none
      if word.isEmpty then unexpected
      else if direction != .text then pure (.mk (number.getD standard) direction word)
      else
        let s ← get
        let line := s.rest.takeWhile (· != '\n')
        let (body, after) :=
          document (operator == "<<-") (literalText word) (linesOf (s.rest.drop (line.length + 1)))
        set (⟨line ++ '\n' :: after.flatMap (· ++ ['\n']), s.line⟩ : Source)
        let content ← if hasQuotes word then pure [.quoted body] else parts fuel .document |>.run' ⟨body, s.line⟩
        pure (.mk (number.getD standard) .text content)

/-- Redirections behind a command. -/
def redirections (fuel : Nat) : Reader (List Redirection) :=
  match fuel with
  | 0 => complain "Too complex"
  | fuel + 1 => do
    skipBlanks
    if ← redirectionNext then
      let first ← redirection fuel
      pure (first :: (← redirections fuel))
    else pure []

/-- Words up to the end of a command. -/
def words (fuel : Nat) : Reader (List Word) :=
  match fuel with
  | 0 => complain "Too complex"
  | fuel + 1 => do
    skipBlanks
    let word ← parts fuel .none
    if word.isEmpty then pure [] else pure (word :: (← words fuel))

/-- The rest of a command without a structure of its own. -/
def simple (fuel line : Nat) (assignments : List (Octets × Word)) (found : List Word) (redirected : List Redirection) :
    Reader Command :=
  match fuel with
  | 0 => complain "Too complex"
  | fuel + 1 => do
    skipBlanks
    if ← redirectionNext then
      let r ← redirection fuel
      simple fuel line assignments found (redirected ++ [r])
    else
      let cs ← remaining
      let name := cs.takeWhile (· != '=')
      if found.isEmpty && isName name && name.length < cs.length then
        advance (name.length + 1)
        let value ← parts fuel .none
        simple fuel line (assignments ++ [(name, value)]) found redirected
      else
        let word ← parts fuel .none
        if !word.isEmpty then simple fuel line assignments (found ++ [word]) redirected
        else if assignments.isEmpty && found.isEmpty && redirected.isEmpty then unexpected
        else pure (.simple line assignments found redirected)

/-- The branches of a choice behind its first word. -/
def branches (fuel : Nat) : Reader (List (Command × Command) × Option Command) :=
  match fuel with
  | 0 => complain "Too complex"
  | fuel + 1 => do
    let condition ← sequence fuel false
    expectWord "then"
    let body ← sequence fuel false
    skipLines
    if ← keyword "elif" then
      let (more, otherwise) ← branches fuel
      pure ((condition, body) :: more, otherwise)
    else if ← keyword "else" then
      let otherwise ← sequence fuel false
      expectWord "fi"
      pure ([(condition, body)], some otherwise)
    else
      expectWord "fi"
      pure ([(condition, body)], none)

/-- The patterns of a branch, up to the parenthesis that closes them. -/
def patterns (fuel : Nat) : Reader (List Word) :=
  match fuel with
  | 0 => complain "Too complex"
  | fuel + 1 => do
    skipBlanks
    let pattern ← parts fuel .none
    if pattern.isEmpty && !(← remaining).isEmpty then unexpected
    else
      skipBlanks
      match ← remaining with
      | '|' :: _ =>
        advance 1
        pure (pattern :: (← patterns fuel))
      | _ =>
        expect ")"
        pure [pattern]

/-- The branches of a selection. -/
def selections (fuel : Nat) : Reader (List (List Word × Command)) :=
  match fuel with
  | 0 => complain "Too complex"
  | fuel + 1 => do
    skipLines
    if ← keyword "esac" then pure []
    else
      if (← remaining).head? == some '(' then advance 1
      let alternatives ← patterns fuel
      let body ← sequence fuel false
      skipLines
      if [';', ';'].isPrefixOf (← remaining) then
        advance 2
        pure ((alternatives, body) :: (← selections fuel))
      else
        expectWord "esac"
        pure [(alternatives, body)]

/-- The body of a loop. -/
def loopBody (fuel : Nat) : Reader Command :=
  match fuel with
  | 0 => complain "Too complex"
  | fuel + 1 => do
    expectWord "do"
    let body ← sequence fuel false
    expectWord "done"
    pure body

/-- A loop over words. -/
def iteration (fuel : Nat) : Reader Command :=
  match fuel with
  | 0 => complain "Too complex"
  | fuel + 1 => do
    skipBlanks
    let name ← upcoming
    if !isName name then complain "Bad for loop variable"
    else
      advance name.length
      skipLines
      let list ← if ← keyword "in" then pure (some (← words fuel)) else pure none
      skipBlanks
      if (← remaining).head? == some ';' then advance 1
      pure (.each name list (← loopBody fuel))

/-- A command with a structure of its own, if its first word says so. -/
def compound? (fuel : Nat) : Reader (Option Command) :=
  match fuel with
  | 0 => complain "Too complex"
  | fuel + 1 => do
    if (← remaining).head? == some '(' then
      advance 1
      let body ← sequence fuel false
      skipLines
      expect ")"
      pure (some (.subshell body))
    else if ← keyword "\x7b" then
      let body ← sequence fuel false
      expectWord "\x7d"
      pure (some body)
    else if ← keyword "if" then
      let (found, otherwise) ← branches fuel
      pure (some (.choose found otherwise))
    else if ← keyword "while" then
      let condition ← sequence fuel false
      pure (some (.loop true condition (← loopBody fuel)))
    else if ← keyword "until" then
      let condition ← sequence fuel false
      pure (some (.loop false condition (← loopBody fuel)))
    else if ← keyword "for" then pure (some (← iteration fuel))
    else if ← keyword "case" then
      skipBlanks
      let subject ← parts fuel .none
      expectWord "in"
      pure (some (.select subject (← selections fuel)))
    else pure none

/-- A command. -/
def command (fuel : Nat) : Reader Command :=
  match fuel with
  | 0 => complain "Too complex"
  | fuel + 1 => do
    skipBlanks
    match ← compound? fuel with
    | some body =>
      let changed ← redirections fuel
      pure (if changed.isEmpty then body else .redirected body changed)
    | none =>
      let name ← upcoming
      if closers.contains (String.ofList name) then unexpected
      else
        let s ← get
        let behind := skipped false false (s.rest.drop name.length) s.line
        match isName name, behind.rest with
        | true, '(' :: _ =>
          set (⟨behind.rest.drop 1, behind.line⟩ : Source)
          skipBlanks
          expect ")"
          skipLines
          pure (.define name (← command fuel))
        | _, _ => simple fuel s.line [] [] []

/-- The commands of a pipeline. -/
def stages (fuel : Nat) : Reader (List Command) :=
  match fuel with
  | 0 => complain "Too complex"
  | fuel + 1 => do
    let first ← command fuel
    skipBlanks
    match ← remaining with
    | '|' :: '|' :: _ => pure [first]
    | '|' :: _ =>
      advance 1
      skipLines
      pure (first :: (← stages fuel))
    | _ => pure [first]

/-- A pipeline, perhaps negated. -/
def pipeline (fuel : Nat) : Reader Command :=
  match fuel with
  | 0 => complain "Too complex"
  | fuel + 1 => do
    skipBlanks
    if ← keyword "!" then pure (.negated (← pipeline fuel))
    else
      match ← stages fuel with
      | [single] => pure single
      | several => pure (.pipeline several)

/-- Pipelines that depend on the success of the ones before, behind `left`. -/
def conditionals (fuel : Nat) (left : Command) : Reader Command :=
  match fuel with
  | 0 => complain "Too complex"
  | fuel + 1 => do
    skipBlanks
    match ← remaining with
    | '&' :: '&' :: _ =>
      advance 2
      skipLines
      conditionals fuel (.both left (← pipeline fuel))
    | '|' :: '|' :: _ =>
      advance 2
      skipLines
      conditionals fuel (.either left (← pipeline fuel))
    | _ => pure left

/-- Commands in a row, up to what ends them: a closing word or parenthesis, the end of the text, or with `oneLine`
    the end of the line. -/
def commands (fuel : Nat) (oneLine : Bool) : Reader (List Command) :=
  match fuel with
  | 0 => complain "Too complex"
  | fuel + 1 => do
    if oneLine then skipBlanks else skipLines
    match ← remaining with
    | [] | ')' :: _ | '\n' :: _ | ';' :: ';' :: _ => pure []
    | _ =>
      if closers.contains (String.ofList (← upcoming)) then pure []
      else
        let first ← conditionals fuel (← pipeline fuel)
        skipBlanks
        match ← remaining with
        | ';' :: ';' :: _ => pure [first]
        | ';' :: _ =>
          advance 1
          pure (first :: (← commands fuel oneLine))
        | '&' :: _ =>
          advance 1
          pure (.subshell first :: (← commands fuel oneLine))
        | '\n' :: _ => if oneLine then pure [first] else pure (first :: (← commands fuel oneLine))
        | _ => pure [first]

/-- Commands in a row, as one. -/
def sequence (fuel : Nat) (oneLine : Bool) : Reader Command :=
  match fuel with
  | 0 => complain "Too complex"
  | fuel + 1 => do
    match ← commands fuel oneLine with
    | [single] => pure single
    | several => pure (.sequence several)

end

/-! ## Scripts -/

/-- The commands of a line, behind which a new line starts. -/
def completeLine (fuel : Nat) : Reader Command := do
  let found ← sequence fuel true
  match ← remaining with
  | [] => pure found
  | '\n' :: _ =>
    advance 1
    pure found
  | _ => unexpected

/-- The commands of the lines of a script, of which there are at most `lines`. -/
def programLines (lines fuel : Nat) (s : Source) : List Command :=
  match lines with
  | 0 => []
  | lines + 1 =>
    if s.rest.isEmpty then []
    else
      match (completeLine fuel).run s with
      | .error complaint => [.malformed complaint.line complaint.text]
      | .ok (found, s) => found :: programLines lines fuel s

/-- The command that a script is. -/
def program (script : Octets) : Command :=
  .sequence (programLines (script.length + 1) (16 * (script.length + 4)) ⟨script, 1⟩)

end RecordGate.Shell
