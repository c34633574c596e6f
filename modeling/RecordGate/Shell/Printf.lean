import RecordGate.Shell.Octets

/-!
# `RecordGate.Shell.Printf` — formatted output

Escapes begin with a backslash and stand for one octet. A format holds texts, escapes and directives; it is used
again as long as arguments are left, and a missing argument is an empty text or zero.

## Contents
- `escaped` — a text with its escapes replaced, and whether an escape ends all output.
- `echoed` — arguments on a line.
- `Directive`, `formatted` — arguments in a format.
-/

namespace RecordGate.Shell

/-! ## Escapes -/

/-- The octets that letters behind a backslash stand for. -/
def escapeLetters : List (Char × Char) :=
  [('a', '\x07'), ('b', '\x08'), ('f', '\x0C'), ('n', '\n'), ('r', '\r'), ('t', '\t'), ('v', '\x0B'), ('\\', '\\')]

/-- The octet of up to `count` octal digits, and how many there are. -/
def octal (count : Nat) (cs : Octets) : Char × Nat :=
  let found := (cs.take count).takeWhile fun c => (digit? 8 c).isSome
  (Char.ofNat ((digits 8 found).1.getD 0 % 256), found.length)

/-- The octet that the text behind a backslash stands for, and the length of that text. -/
def escape? (cs : Octets) : Option (Char × Nat) :=
  match cs with
  | [] => none
  | c :: _ =>
    match escapeLetters.lookup c with
    | some found => some (found, 1)
    | none => if (digit? 8 c).isSome then some (octal 3 cs) else none

/-- Like `escape?`, except that a zero may come before three octal digits. -/
def zeroEscape? (cs : Octets) : Option (Char × Nat) :=
  match cs with
  | '0' :: rest =>
    let (c, length) := octal 3 rest
    some (c, length + 1)
  | cs => escape? cs

/-- A text of at most `fuel` octets with its escapes replaced, and whether `\c` ends all output. -/
def escapedWithin (fuel : Nat) (cs : Octets) : Octets × Bool :=
  match fuel, cs with
  | 0, _ | _, [] => ([], false)
  | _, '\\' :: 'c' :: _ => ([], true)
  | fuel + 1, '\\' :: rest =>
    match zeroEscape? rest with
    | some (c, length) =>
      let (cs, ends) := escapedWithin fuel (rest.drop length)
      (c :: cs, ends)
    | none =>
      let (cs, ends) := escapedWithin fuel rest
      ('\\' :: cs, ends)
  | fuel + 1, c :: rest =>
    let (cs, ends) := escapedWithin fuel rest
    (c :: cs, ends)

/-- A text with its escapes replaced, and whether `\c` ends all output. -/
def escaped (cs : Octets) : Octets × Bool :=
  escapedWithin cs.length cs

/-- Arguments with spaces between them, on a line of their own; with `-n` in front the line is left open. -/
def echoed (withEscapes : Bool) (arguments : List Octets) : Octets :=
  let (isOpen, arguments) := match arguments with
    | ['-', 'n'] :: rest => (true, rest)
    | all => (false, all)
  let line := [' '].intercalate arguments
  let (line, ends) := if withEscapes then escaped line else (line, false)
  if isOpen || ends then line else line ++ ['\n']

/-! ## Formats -/

/-- How one argument is written. -/
structure Directive where
  leftAligned : Bool := false
  zeroPadded : Bool := false
  signed : Bool := false
  spaced : Bool := false
  alternative : Bool := false
  width : Nat := 0
  precision : Option Nat := none
  conversion : Char := 's'

/-- The flags of a directive, and what follows them. -/
def directiveFlags (d : Directive) : Octets → Directive × Octets
  | '-' :: rest => directiveFlags { d with leftAligned := true } rest
  | '0' :: rest => directiveFlags { d with zeroPadded := true } rest
  | '+' :: rest => directiveFlags { d with signed := true } rest
  | ' ' :: rest => directiveFlags { d with spaced := true } rest
  | '#' :: rest => directiveFlags { d with alternative := true } rest
  | rest => (d, rest)

/-- A width or precision in digits, or from the first argument, with what follows and the other arguments. -/
def measure (cs : Octets) (arguments : List Octets) : Int × Octets × List Octets :=
  match cs with
  | '*' :: rest => (((arguments.head?).bind number?).getD 0, rest, arguments.tail)
  | cs =>
    let (n, rest) := digits 10 cs
    (n.getD 0, rest, arguments)

/-- The directive behind a percent sign, what follows it, and the arguments that it does not use up itself. -/
def directive? (cs : Octets) (arguments : List Octets) : Option (Directive × Octets × List Octets) :=
  let (d, rest) := directiveFlags {} cs
  let (width, rest, arguments) := measure rest arguments
  let d := { d with width := width.natAbs, leftAligned := d.leftAligned || width < 0 }
  let (d, rest, arguments) := match rest with
    | '.' :: rest =>
      let (precision, rest, arguments) := measure rest arguments
      ({ d with precision := if precision < 0 then none else some precision.natAbs }, rest, arguments)
    | rest => (d, rest, arguments)
  match rest with
  | [] => none
  | c :: rest => some ({ d with conversion := c }, rest, arguments)

/-- A text as wide as a directive asks for. -/
def Directive.padded (d : Directive) (cs : Octets) : Octets :=
  let missing := List.replicate (d.width - cs.length) ' '
  if d.leftAligned then cs ++ missing else missing ++ cs

/-- A number whose digits stand behind its sign, as wide as a directive asks for. -/
def Directive.numeral (d : Directive) (sign found : Octets) : Octets :=
  let found := List.replicate (d.precision.getD 1 - found.length) '0' ++ found
  if d.zeroPadded && !d.leftAligned && d.precision.isNone then
    sign ++ List.replicate (d.width - sign.length - found.length) '0' ++ found
  else d.padded (sign ++ found)

/-- The number that an argument is, and whether it is one. A quotation mark stands before an octet that is meant. -/
def argumentNumber (cs : Octets) : Int × Bool :=
  match cs with
  | [] => (0, true)
  | '\'' :: c :: _ | '"' :: c :: _ => (c.toNat, true)
  | cs =>
    let (negative, rest) := match cs.dropWhile isSpace with
      | '-' :: rest => (true, rest)
      | '+' :: rest => (false, rest)
      | rest => (false, rest)
    match magnitude rest with
    | (some n, rest) => (if negative then -(n : Int) else n, rest.isEmpty)
    | (none, _) => (0, false)

/-- An argument as a directive writes it, whether that ends all output, and whether the argument is right. -/
def Directive.write (d : Directive) (argument : Octets) : Octets × Bool × Bool :=
  let cut (cs : Octets) := match d.precision with
    | some length => cs.take length
    | none => cs
  let (n, right) := argumentNumber argument
  let unsigned := (n % 0x10000000000000000).toNat
  match d.conversion with
  | 's' => (d.padded (cut argument), false, true)
  | 'b' =>
    let (cs, ends) := escaped argument
    (d.padded (cut cs), ends, true)
  | 'c' => (d.padded (argument.take 1), false, true)
  | 'd' | 'i' =>
    let sign := if n < 0 then ['-'] else if d.signed then ['+'] else if d.spaced then [' '] else []
    (d.numeral sign (Nat.toDigits 10 n.natAbs), false, right)
  | 'u' => (d.numeral [] (Nat.toDigits 10 unsigned), false, right)
  | 'o' => (d.numeral (if d.alternative then ['0'] else []) (Nat.toDigits 8 unsigned), false, right)
  | 'x' => (d.numeral (if d.alternative then ['0', 'x'] else []) (Nat.toDigits 16 unsigned), false, right)
  | 'X' =>
    (d.numeral (if d.alternative then ['0', 'X'] else []) ((Nat.toDigits 16 unsigned).map Char.toUpper), false, right)
  | c => (['%', c], false, false)

/-- What formatted output comes to. -/
structure Formatted where
  output : Octets := []
  /-- The arguments that are left. -/
  left : List Octets
  /-- Whether an escape ended all output. -/
  ended : Bool := false
  /-- The arguments that should have been numbers. -/
  wrong : List Octets := []

/-- Arguments in a format that is used once; its length is at most `fuel`. -/
def formattedOnce (fuel : Nat) (format : Octets) (arguments : List Octets) : Formatted :=
  match fuel, format with
  | 0, _ | _, [] => { left := arguments }
  | fuel + 1, '\\' :: rest =>
    let (c, length) := (escape? rest).getD ('\\', 0)
    let f := formattedOnce fuel (rest.drop length) arguments
    { f with output := c :: f.output }
  | fuel + 1, '%' :: '%' :: rest =>
    let f := formattedOnce fuel rest arguments
    { f with output := '%' :: f.output }
  | fuel + 1, '%' :: rest =>
    match directive? rest arguments with
    | none => { output := ['%'], left := arguments }
    | some (d, rest, arguments) =>
      let argument := arguments.head?.getD []
      let (cs, ends, right) := d.write argument
      let wrong := if right then [] else [argument]
      if ends then { output := cs, left := [], ended := true, wrong }
      else
        let f := formattedOnce fuel rest arguments.tail
        { f with output := cs ++ f.output, wrong := wrong ++ f.wrong }
  | fuel + 1, c :: rest =>
    let f := formattedOnce fuel rest arguments
    { f with output := c :: f.output }

/-- Arguments in a format that is used at most `times` times, but at least once and as long as arguments are left. -/
def formattedTimes (times : Nat) (format : Octets) (arguments : List Octets) : Formatted :=
  let f := formattedOnce format.length format arguments
  match times with
  | 0 => f
  | times + 1 =>
    if f.ended || f.left.isEmpty || f.left.length == arguments.length then f
    else
      let g := formattedTimes times format f.left
      { g with output := f.output ++ g.output, wrong := f.wrong ++ g.wrong }

/-- Arguments in a format, which is used as often as there are arguments for it. -/
def formatted (format : Octets) (arguments : List Octets) : Formatted :=
  formattedTimes arguments.length format arguments

end RecordGate.Shell
