import RecordGate.Number.Shortest

/-!
# `RecordGate.Json.Basic` — JSON values

A number is kept as it is written: a whole number of any size, a negative zero, or a decimal with a fraction or an
exponent. The members of an object stand in the order of the text; of members with the same name the last one
counts.
-/

namespace RecordGate

open Number

namespace Json

/-- A JSON number as it is written. -/
inductive Numeral where
  /-- Digits, perhaps behind a minus sign. -/
  | whole (value : Int)
  /-- `-0`. -/
  | negativeZero
  /-- `digits · 10 ^ exponent`, written with a fraction or an exponent. -/
  | decimal (negative : Bool) (digits : Nat) (exponent : Int)
  deriving DecidableEq, Repr

/-- The least natural number that 64 bits do not hold. -/
def integerBound : Nat :=
  0x10000000000000000

/-- As many leading digits as fit into 64 bits, and the number of the digits left out. -/
def leadingDigits (digits : Nat) : Nat × Nat :=
  let count := (Nat.repr digits).length
  let extra := (List.range (count + 1)).find? fun k => digits / Nat.pow 10 k < integerBound
  (digits / Nat.pow 10 (extra.getD 0), extra.getD 0)

/-- The double that a decimal is read as, unless it is too great. -/
def doubleOf? (digits : Nat) (exponent : Int) : Option Double :=
  let (leading, extra) := leadingDigits digits
  Double.ofDecimal? leading (exponent + extra)

/-- Whether a numeral is read as an exact integer: one that 64 bits hold, with or without a sign. -/
def Numeral.isInteger : Numeral → Bool
  | .whole n => -0x8000000000000000 ≤ n && n < integerBound
  | _ => false

/-- Whether a numeral is small enough to be read at all. -/
def Numeral.isFinite : Numeral → Bool
  | .whole n => (doubleOf? n.natAbs 0).isSome
  | .negativeZero => true
  | .decimal _ digits exponent => (doubleOf? digits exponent).isSome

/-- The integer that is left when the fraction of a numeral is cut off. -/
def Numeral.truncate : Numeral → Int
  | .whole n => n
  | .negativeZero => 0
  | .decimal negative digits exponent =>
    let magnitude : Int := ((doubleOf? digits exponent).map (·.truncate)).getD 0
    if negative then -magnitude else magnitude

end Json

/-- A JSON value. -/
inductive Json where
  | null
  | bool (value : Bool)
  | number (value : Json.Numeral)
  | string (value : String)
  | array (items : List Json)
  | object (members : List (String × Json))

namespace Json

/-- A whole number. -/
def int (n : Int) : Json :=
  .number (.whole n)

/-- The text, or `null` if there is none. -/
def optionalString : Option String → Json
  | none => .null
  | some s => .string s

/-- The value of the last member of this name. -/
def lookup (members : List (String × Json)) (name : String) : Option Json :=
  (members.reverse.find? fun member => member.1 == name).map (·.2)

/-- The value of a member of an object. -/
def get? : Json → String → Option Json
  | .object members, name => lookup members name
  | _, _ => none

/-- The text, if the value is one. -/
def string? : Json → Option String
  | .string s => some s
  | _ => none

/-- The members, if the value is an object. -/
def members? : Json → Option (List (String × Json))
  | .object members => some members
  | _ => none

/-- The items, if the value is an array. -/
def items? : Json → Option (List Json)
  | .array items => some items
  | _ => none

end Json

end RecordGate
