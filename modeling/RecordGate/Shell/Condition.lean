import RecordGate.Shell.Machine

/-!
# `RecordGate.Shell.Condition` — conditions on texts, numbers and files

The words of a condition form comparisons, which `!`, `-a`, `-o` and parentheses combine. How words are read depends
on how many there are, so that a word which looks like an operator can be compared.

## Contents
- `Verdict` — truth, or a complaint.
- `condition` — the verdict on the words of a condition.
-/

namespace RecordGate.Shell

open Files

/-- What comes of a condition. -/
abbrev Verdict := Except String Bool

/-- The verdict on what a path leads to. -/
def fileCondition (m : Machine) (letter : Char) (path : Octets) : Bool :=
  match m.find path with
  | .error _ => false
  | .ok (_, node) =>
    match letter, node with
    | 'e', _ | 'r', _ | 'w', _ => true
    | 'f', .file .. | 'f', .tool _ => true
    | 'd', .directory _ => true
    | 's', .file content _ => content.size > 0
    | 's', .directory _ => true
    | 'x', .file _ executable => executable
    | 'x', .directory _ | 'x', .tool _ => true
    | _, _ => false

/-- The operators on one word that ask for a file. -/
def fileLetters : List Char :=
  ['e', 'r', 'w', 'f', 'd', 's', 'x']

/-- The verdict on an operator and a word. -/
def unaryCondition (m : Machine) (operator word : Octets) : Option Verdict :=
  match operator with
  | ['-', 'n'] => some (.ok (!word.isEmpty))
  | ['-', 'z'] => some (.ok word.isEmpty)
  | ['-', 't'] => some (.ok false)
  | ['-', letter] => if fileLetters.contains letter then some (.ok (fileCondition m letter word)) else none
  | _ => none

/-- A comparison of two numbers. -/
def numberComparison (compare : Int → Int → Bool) (left right : Octets) : Verdict :=
  match number? left, number? right with
  | some a, some b => .ok (compare a b)
  | none, _ => .error ("Illegal number: " ++ Octets.toText left)
  | _, none => .error ("Illegal number: " ++ Octets.toText right)

/-- The verdict on an operator between two words. -/
def binaryCondition (left operator right : Octets) : Option Verdict :=
  match String.ofList operator with
  | "=" | "==" => some (.ok (left == right))
  | "!=" => some (.ok (left != right))
  | "<" => some (.ok (left < right))
  | ">" => some (.ok (left > right))
  | "-eq" => some (numberComparison (· == ·) left right)
  | "-ne" => some (numberComparison (· != ·) left right)
  | "-lt" => some (numberComparison (· < ·) left right)
  | "-le" => some (numberComparison (· ≤ ·) left right)
  | "-gt" => some (numberComparison (· > ·) left right)
  | "-ge" => some (numberComparison (· ≥ ·) left right)
  | _ => none

/-- The words before and behind the first occurrence of a word. -/
def splitAtWord (word : Octets) (words : List Octets) : Option (List Octets × List Octets) :=
  let before := words.takeWhile (· != word)
  if before.length < words.length then some (before, words.drop (before.length + 1)) else none

/-- The verdict on the words of a condition, of which there are at most `fuel`. -/
def conditionWithin (m : Machine) (fuel : Nat) (words : List Octets) : Verdict :=
  match fuel with
  | 0 => .error "too many arguments"
  | fuel + 1 =>
    let opposite (words : List Octets) : Verdict := (conditionWithin m fuel words).map (!·)
    let combined : Verdict :=
      match splitAtWord ['-', 'o'] words with
      | some (left, right) => do
        let a ← conditionWithin m fuel left
        let b ← conditionWithin m fuel right
        .ok (a || b)
      | none =>
        match splitAtWord ['-', 'a'] words with
        | some (left, right) => do
          let a ← conditionWithin m fuel left
          let b ← conditionWithin m fuel right
          .ok (a && b)
        | none =>
          match words with
          | ['!'] :: rest => opposite rest
          | ['('] :: rest => conditionWithin m fuel rest.dropLast
          | word :: _ => .error (Octets.toText word ++ ": unexpected operator")
          | [] => .ok false
    match words with
    | [] => .ok false
    | [word] => .ok (!word.isEmpty)
    | [operator, word] =>
      if operator == ['!'] then .ok word.isEmpty
      else (unaryCondition m operator word).getD (.error (Octets.toText operator ++ ": unexpected operator"))
    | [left, operator, right] => (binaryCondition left operator right).getD combined
    | _ => combined

/-- The verdict on the words of a condition. -/
def condition (m : Machine) (words : List Octets) : Verdict :=
  conditionWithin m (words.length + 1) words

end RecordGate.Shell
