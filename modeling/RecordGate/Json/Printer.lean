import RecordGate.Json.Basic

/-!
# `RecordGate.Json.Printer` — writing JSON texts

The compact form has no white space between tokens; the pretty form puts every item and member on a line of its own,
two spaces further in than what encloses it. Texts escape the quotation mark, the backslash and control characters.
-/

namespace RecordGate.Json

/-! ## Texts and numbers -/

/-- The hexadecimal digit of a number below sixteen. -/
def hexDigit (n : Nat) : Char :=
  Nat.digitChar n

/-- A character as it stands inside a text. -/
def escapedChar (c : Char) : List Char :=
  if c == '"' || c == '\\' then ['\\', c]
  else if c == '\n' then ['\\', 'n']
  else if c == '\r' then ['\\', 'r']
  else if c == '\t' then ['\\', 't']
  else if c == '\x08' then ['\\', 'b']
  else if c == '\x0C' then ['\\', 'f']
  else if c.toNat < 0x20 then ['\\', 'u', '0', '0', hexDigit (c.toNat / 16), hexDigit (c.toNat % 16)]
  else [c]

/-- A text between quotation marks. -/
def stringText (s : String) : String :=
  String.ofList ('"' :: s.toList.flatMap escapedChar ++ ['"'])

/-- A number. A decimal is written as an integer with an exponent. -/
def Numeral.text : Numeral → String
  | .whole n => toString n
  | .negativeZero => "-0"
  | .decimal negative digits exponent =>
    (if negative then "-" else "") ++ Nat.repr digits ++ "e" ++ toString exponent

/-! ## The compact form -/

mutual

/-- A value without white space between tokens. -/
def compact : Json → String
  | .null => "null"
  | .bool true => "true"
  | .bool false => "false"
  | .number n => n.text
  | .string s => stringText s
  | .array items => "[" ++ String.intercalate "," (compactItems items) ++ "]"
  | .object members => "\x7b" ++ String.intercalate "," (compactMembers members) ++ "\x7d"

/-- The items of an array. -/
def compactItems : List Json → List String
  | [] => []
  | item :: items => compact item :: compactItems items

/-- The members of an object. -/
def compactMembers : List (String × Json) → List String
  | [] => []
  | (name, value) :: members => (stringText name ++ ":" ++ compact value) :: compactMembers members

end

/-! ## The pretty form -/

/-- A new line at a depth. -/
def newLine (depth : Nat) : String :=
  String.ofList ('\n' :: List.replicate (2 * depth) ' ')

/-- Parts between brackets, each on a line of its own. -/
def block (depth : Nat) (opening closing : String) (parts : List String) : String :=
  if parts.isEmpty then opening ++ closing
  else
    opening ++ newLine (depth + 1) ++ String.intercalate ("," ++ newLine (depth + 1)) parts ++ newLine depth ++ closing

mutual

/-- A value at a depth, with every item and member on a line of its own. -/
def prettyAt (depth : Nat) : Json → String
  | .array items => block depth "[" "]" (prettyItems (depth + 1) items)
  | .object members => block depth "\x7b" "\x7d" (prettyMembers (depth + 1) members)
  | .null => "null"
  | .bool true => "true"
  | .bool false => "false"
  | .number n => n.text
  | .string s => stringText s

/-- The items of an array. -/
def prettyItems (depth : Nat) : List Json → List String
  | [] => []
  | item :: items => prettyAt depth item :: prettyItems depth items

/-- The members of an object. -/
def prettyMembers (depth : Nat) : List (String × Json) → List String
  | [] => []
  | (name, value) :: members => (stringText name ++ ": " ++ prettyAt depth value) :: prettyMembers depth members

end

/-- A value with every item and member on a line of its own. -/
def pretty (value : Json) : String :=
  prettyAt 0 value

end RecordGate.Json
