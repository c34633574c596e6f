import RecordGate.Text.Utf8

/-!
# `RecordGate.Shell.Octets` — texts of octets

A shell knows no characters, only octets. Here a text of octets is a list of the characters below 256, one for each
octet, so that it can be compared with literals; what lies outside ASCII is never looked at.

## Contents
- `Octets`, `ofBytes`, `toBytes`, `ofText`, `toText` — octets, and how they are turned into texts and back.
- `numeral`, `number?` — decimal numbers.
-/

namespace RecordGate.Shell

open Text

/-- A text of octets, each as the character of its number. -/
abbrev Octets := List Char

namespace Octets

/-- The octets of a byte sequence. -/
def ofBytes (bytes : List UInt8) : Octets :=
  bytes.map fun b => Char.ofNat b.toNat

/-- The byte sequence of octets. -/
def toBytes (cs : Octets) : List UInt8 :=
  cs.map fun c => UInt8.ofNat c.toNat

/-- The octets of a text. -/
def ofText (s : String) : Octets :=
  ofBytes (Utf8.encode s)

/-- The text of octets, with a replacement for what is not UTF-8. -/
def toText (cs : Octets) : String :=
  Utf8.decodeLossy (toBytes cs)

/-- The octets of a file. -/
def ofArray (bytes : ByteArray) : Octets :=
  ofBytes bytes.data.toList

/-- The content of a file. -/
def toArray (cs : Octets) : ByteArray :=
  ⟨(toBytes cs).toArray⟩

end Octets

/-! ## Numbers -/

/-- A number in decimal digits. -/
def numeral (n : Int) : Octets :=
  (toString n).toList

/-- The value of a digit in a base of up to sixteen. -/
def digit? (base : Nat) (c : Char) : Option Nat :=
  let value :=
    if '0' ≤ c && c ≤ '9' then c.toNat - '0'.toNat
    else if 'a' ≤ c && c ≤ 'f' then c.toNat - 'a'.toNat + 10
    else if 'A' ≤ c && c ≤ 'F' then c.toNat - 'A'.toNat + 10
    else base
  if value < base then some value else none

/-- The digits that a text starts with, as a number, and what follows them. -/
def digits (base : Nat) (cs : Octets) : Option Nat × Octets :=
  match cs with
  | [] => (none, [])
  | c :: rest =>
    match digit? base c with
    | none => (none, c :: rest)
    | some _ => go 0 (c :: rest)
where
  go (value : Nat) : Octets → Option Nat × Octets
    | [] => (some value, [])
    | c :: rest =>
      match digit? base c with
      | none => (some value, c :: rest)
      | some d => go (value * base + d) rest

/-- A number without a sign: `0x` introduces hexadecimal digits, another leading zero octal ones. -/
def magnitude (cs : Octets) : Option Nat × Octets :=
  match cs with
  | '0' :: 'x' :: rest | '0' :: 'X' :: rest =>
    match digits 16 rest with
    | (none, _) => (some 0, 'x' :: rest)
    | found => found
  | '0' :: _ => digits 8 cs
  | _ => digits 10 cs

/-- Whether an octet separates words. -/
def isSpace (c : Char) : Bool :=
  c == ' ' || c == '\t' || c == '\n' || c == '\x0B' || c == '\x0C' || c == '\r'

/-- A sign and digits in base ten, with white space around them. -/
def number? (cs : Octets) : Option Int :=
  let (negative, rest) := match cs.dropWhile isSpace with
    | '-' :: rest => (true, rest)
    | '+' :: rest => (false, rest)
    | rest => (false, rest)
  match digits 10 rest with
  | (some n, rest) => if rest.all isSpace then some (if negative then -(n : Int) else n) else none
  | (none, _) => none

end RecordGate.Shell
