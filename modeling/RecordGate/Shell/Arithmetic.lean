import RecordGate.Shell.Octets

/-!
# `RecordGate.Shell.Arithmetic` — arithmetic expressions

Expressions are those of whole numbers with 64 bits and a sign, which wrap around. Operators have the usual ranks,
and a name stands for the number that a variable holds.

## Contents
- `Expr`, `expression` — expressions, and how they are read.
- `Expr.value` — the value of an expression, and the variables after it.
-/

namespace RecordGate.Shell.Arithmetic

/-- An expression. -/
inductive Expr where
  | number (n : Int)
  | parameter (name : Octets)
  | unary (op : Char) (e : Expr)
  | binary (op : String) (left right : Expr)
  | conditional (condition yes no : Expr)
  | assignment (name : Octets) (e : Expr)

/-- The operators between two expressions, from the lowest rank to the highest one. -/
def ranks : List (List String) :=
  [["||"], ["&&"], ["|"], ["^"], ["&"], ["==", "!="], ["<=", ">=", "<", ">"], ["<<", ">>"], ["+", "-"],
    ["*", "/", "%"]]

/-- All operators between two expressions, longer ones first. -/
def operators : List String :=
  ["||", "&&", "==", "!=", "<=", ">=", "<<", ">>", "|", "^", "&", "<", ">", "+", "-", "*", "/", "%"]

/-- The operators that end in an equals sign. -/
def comparisons : List String :=
  ["==", "!=", "<=", ">="]

/-- The operator that a text starts with, unless it is part of an assignment. -/
def operator? (cs : Octets) : Option String :=
  (operators.find? fun op => op.toList.isPrefixOf cs).filter fun op =>
    let behind := cs.drop op.length
    behind.head? != some '=' || comparisons.contains op || (behind.drop 1).head? == some '='

/-- The assignments that compute with the old value. -/
def assignmentOperators : List String :=
  ["+=", "-=", "*=", "/=", "%=", "<<=", ">>=", "&=", "^=", "|="]

/-- Whether an octet may stand in a name. -/
def isNamePart (c : Char) : Bool :=
  c.isAlphanum || c == '_'

mutual

/-- An expression, and what follows it. -/
def assigned (fuel : Nat) (cs : Octets) : Option (Expr × Octets) :=
  match fuel with
  | 0 => none
  | fuel + 1 =>
    let cs := cs.dropWhile isSpace
    let name := cs.takeWhile isNamePart
    let behind := (cs.drop name.length).dropWhile isSpace
    if name.isEmpty || name.head?.any Char.isDigit then choice fuel cs
    else
      match behind with
      | '=' :: rest =>
        if rest.head? == some '=' then choice fuel cs
        else (assigned fuel rest).map fun (e, rest) => (.assignment name e, rest)
      | _ =>
        match assignmentOperators.find? fun op => op.toList.isPrefixOf behind with
        | none => choice fuel cs
        | some op => (assigned fuel (behind.drop op.length)).map fun (e, rest) =>
          (.assignment name (.binary (String.ofList op.toList.dropLast) (.parameter name) e), rest)

/-- An expression that may be a choice between two. -/
def choice (fuel : Nat) (cs : Octets) : Option (Expr × Octets) :=
  match fuel with
  | 0 => none
  | fuel + 1 =>
    (ranked fuel ranks cs).bind fun (condition, rest) =>
      match rest.dropWhile isSpace with
      | '?' :: rest =>
        (assigned fuel rest).bind fun (yes, rest) =>
          match rest.dropWhile isSpace with
          | ':' :: rest => (choice fuel rest).map fun (no, rest) => (.conditional condition yes no, rest)
          | _ => none
      | rest => some (condition, rest)

/-- An expression of operators of these ranks. -/
def ranked (fuel : Nat) (levels : List (List String)) (cs : Octets) : Option (Expr × Octets) :=
  match fuel with
  | 0 => none
  | fuel + 1 =>
    match levels with
    | [] => operand fuel cs
    | level :: higher => (ranked fuel higher cs).bind fun (left, rest) => chained fuel level higher left rest

/-- Operators of one rank behind their left side. -/
def chained (fuel : Nat) (level : List String) (higher : List (List String)) (left : Expr) (cs : Octets) :
    Option (Expr × Octets) :=
  match fuel with
  | 0 => none
  | fuel + 1 =>
    let cs := cs.dropWhile isSpace
    match operator? cs with
    | none => some (left, cs)
    | some op =>
      if level.contains op then
        (ranked fuel higher (cs.drop op.length)).bind fun (right, rest) =>
          chained fuel level higher (.binary op left right) rest
      else some (left, cs)

/-- A number, a name, an expression in parentheses, or one of these behind a sign. -/
def operand (fuel : Nat) (cs : Octets) : Option (Expr × Octets) :=
  match fuel with
  | 0 => none
  | fuel + 1 =>
    match cs.dropWhile isSpace with
    | [] => none
    | '(' :: rest =>
      (assigned fuel rest).bind fun (e, rest) =>
        match rest.dropWhile isSpace with
        | ')' :: rest => some (e, rest)
        | _ => none
    | c :: rest =>
      if ['-', '+', '!', '~'].contains c then (operand fuel rest).map fun (e, rest) => (.unary c e, rest)
      else if c.isDigit then
        match magnitude (c :: rest) with
        | (some n, rest) => if rest.head?.any isNamePart then none else some (.number n, rest)
        | (none, _) => none
      else
        let name := (c :: rest).takeWhile isNamePart
        if name.isEmpty then none else some (.parameter name, (c :: rest).drop name.length)

end

/-- The expression that a text is, or a complaint. An empty one is zero. -/
def expression (cs : Octets) : Except String Expr :=
  if cs.all isSpace then .ok (.number 0)
  else
    match assigned (32 * (cs.length + 2)) cs with
    | some (e, rest) => if rest.all isSpace then .ok e else .error "expecting EOF"
    | none => .error "expecting primary"

/-- What cannot be computed. -/
inductive Fault where
  | divisionByZero
  | notNumber (text : Octets)

/-- The number with 64 bits and a sign that a number is the same as. -/
def wrapped (n : Int) : Int :=
  Int.bmod n 0x10000000000000000

/-- The number of a truth value. -/
def ofBool (b : Bool) : Int :=
  if b then 1 else 0

/-- What an operator makes of two numbers. -/
def apply (op : String) (a b : Int) : Except Fault Int :=
  match op with
  | "+" => .ok (wrapped (a + b))
  | "-" => .ok (wrapped (a - b))
  | "*" => .ok (wrapped (a * b))
  | "/" => if b == 0 then .error .divisionByZero else .ok (wrapped (a.tdiv b))
  | "%" => if b == 0 then .error .divisionByZero else .ok (a.tmod b)
  | "<<" => .ok (wrapped (a * Nat.pow 2 (b.toNat % 64)))
  | ">>" => .ok (a >>> (b.toNat % 64))
  | "==" => .ok (ofBool (a == b))
  | "!=" => .ok (ofBool (a != b))
  | "<=" => .ok (ofBool (a ≤ b))
  | ">=" => .ok (ofBool (a ≥ b))
  | "<" => .ok (ofBool (a < b))
  | ">" => .ok (ofBool (a > b))
  | "&" => .ok (Int64.ofInt a &&& Int64.ofInt b).toInt
  | "|" => .ok (Int64.ofInt a ||| Int64.ofInt b).toInt
  | _ => .ok (Int64.ofInt a ^^^ Int64.ofInt b).toInt

/-- The number that the text of a variable is. -/
def ofVariable (cs : Octets) : Except Fault Int :=
  if cs.all isSpace then .ok 0
  else
    let (negative, rest) := match cs.dropWhile isSpace with
      | '-' :: rest => (true, rest)
      | '+' :: rest => (false, rest)
      | rest => (false, rest)
    match magnitude rest with
    | (some n, rest) =>
      if !rest.all isSpace then .error (.notNumber cs)
      else .ok (wrapped (if negative then -(n : Int) else n))
    | (none, _) => .error (.notNumber cs)

/-- The value of an expression, and the assignments made on the way, the last one first. -/
def Expr.value (get? : Octets → Octets) (e : Expr) (made : List (Octets × Int)) :
    Except Fault (Int × List (Octets × Int)) :=
  match e with
  | .number n => .ok (wrapped n, made)
  | .parameter name =>
    match made.lookup name with
    | some n => .ok (n, made)
    | none => (ofVariable (get? name)).map (·, made)
  | .unary op e => do
    let (n, made) ← e.value get? made
    match op with
    | '-' => .ok (wrapped (-n), made)
    | '!' => .ok (ofBool (n == 0), made)
    | '~' => .ok (-n - 1, made)
    | _ => .ok (n, made)
  | .binary op left right => do
    let (a, made) ← left.value get? made
    if op == "&&" && a == 0 then .ok (0, made)
    else if op == "||" && a != 0 then .ok (1, made)
    else
      let (b, made) ← right.value get? made
      if op == "&&" || op == "||" then .ok (ofBool (b != 0), made)
      else
        let n ← apply op a b
        .ok (n, made)
  | .conditional condition yes no => do
    let (n, made) ← condition.value get? made
    if n != 0 then yes.value get? made else no.value get? made
  | .assignment name e => do
    let (n, made) ← e.value get? made
    .ok (n, (name, n) :: made)

end RecordGate.Shell.Arithmetic
