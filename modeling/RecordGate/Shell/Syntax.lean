import RecordGate.Shell.Octets

/-!
# `RecordGate.Shell.Syntax` — what scripts are made of

A script is one command, which is composed of others. The words of a command are composed of parts, which are
expanded before the command runs; a part that stands between quotation marks is not split by that.

## Contents
- `Part`, `Word` — words and what is substituted in them.
- `Redirection` — where a command reads and writes.
- `Command` — commands.
-/

namespace RecordGate.Shell

/-- What a parameter is replaced by if it is unset. -/
inductive Fallback where
  /-- A word (`-`). -/
  | value
  /-- A word that the parameter is then set to (`=`). -/
  | assigned
  /-- Nothing; a word if it is set (`+`). -/
  | alternative
  /-- A complaint (`?`). -/
  | complaint
  deriving DecidableEq, Repr

/-- What is done to the descriptor of a command. -/
inductive Direction where
  /-- Read from a file. -/
  | input
  /-- Write to a file, from its start. -/
  | output
  /-- Write to a file, behind its end. -/
  | append
  /-- Read from a text. -/
  | text
  /-- Use another descriptor. -/
  | duplicate
  deriving DecidableEq, Repr

mutual

/-- A part of a word. -/
inductive Part where
  /-- A text without quotation marks. -/
  | plain (cs : Octets)
  /-- A text between quotation marks. -/
  | quoted (cs : Octets)
  /-- The value of a parameter. -/
  | parameter (name : Octets) (use : Use) (inQuotes : Bool)
  /-- The output of a command. -/
  | output (command : Command) (inQuotes : Bool)
  /-- The value of an arithmetic expression. -/
  | arithmetic (expression : List Part) (inQuotes : Bool)

/-- How the value of a parameter is used. -/
inductive Use where
  /-- As it is. -/
  | value
  /-- Its length. -/
  | length
  /-- With a fallback if it is unset, or also if it is empty. -/
  | fallback (kind : Fallback) (orEmpty : Bool) (word : List Part)
  /-- Without what a pattern matches at its start or end, as long or as short as possible. -/
  | strip (atEnd longest : Bool) (pattern : List Part)

/-- A redirection of a descriptor. -/
inductive Redirection where
  | mk (descriptor : Nat) (direction : Direction) (target : List Part)

/-- A command. -/
inductive Command where
  /-- Assignments, words and redirections, in this line of the script. -/
  | simple (line : Nat) (assignments : List (Octets × List Part)) (words : List (List Part))
      (redirections : List Redirection)
  /-- Commands in a row. -/
  | sequence (commands : List Command)
  /-- The right one if the left one succeeds. -/
  | both (left right : Command)
  /-- The right one if the left one fails. -/
  | either (left right : Command)
  /-- The opposite. -/
  | negated (command : Command)
  /-- Commands that each read what the one before writes. -/
  | pipeline (stages : List Command)
  /-- A command with changes of its own. -/
  | subshell (command : Command)
  /-- A command with redirections. -/
  | redirected (command : Command) (redirections : List Redirection)
  /-- The first branch whose condition succeeds. -/
  | choose (branches : List (Command × Command)) (otherwise : Option Command)
  /-- The body as long as the condition succeeds, or as long as it fails. -/
  | loop (whileTrue : Bool) (condition body : Command)
  /-- The body for each of the words, or of the positional parameters. -/
  | each (name : Octets) (words : Option (List (List Part))) (body : Command)
  /-- The first branch with a pattern that matches the subject. -/
  | select (subject : List Part) (branches : List (List (List Part) × Command))
  /-- A definition of a function. -/
  | define (name : Octets) (body : Command)
  /-- What could not be read, with the complaint. -/
  | malformed (line : Nat) (complaint : String)

end

/-- A word. -/
abbrev Word := List Part

/-- The command that does nothing. -/
def Command.nothing : Command :=
  .sequence []

end RecordGate.Shell
