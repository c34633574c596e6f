/-!
# `RecordGate.Text.Utf8` — reading octets as UTF-8

A machine reads the octets one at a time. Between characters it is at the start; within one it owes a number of
continuation octets, the next of which must lie in a stated interval, so that overlong forms, surrogates and
values beyond U+10FFFF are refused at the first octet that rules them out.

## Contents
- `items` — the characters of an octet sequence, with `none` for each longest refused beginning.
- `decodeLossy` — every refused beginning becomes one U+FFFD.
- `decode?` — the text, if nothing is refused.
-/

namespace RecordGate.Text.Utf8

/-- Where the machine stands: between characters, or owing `more + 1` continuation octets after having
    collected `code`, the next one between `low` and `high`. -/
inductive State where
  | start
  | owing (more low high code : Nat)

/-- The first octet of a character: what is complete with it, and the state after it. -/
def first (b : Nat) : List (Option Char) × State :=
  if b ≤ 0x7F then ([some (Char.ofNat b)], .start)
  else if 0xC2 ≤ b && b ≤ 0xDF then ([], .owing 0 0x80 0xBF (b - 0xC0))
  else if b == 0xE0 then ([], .owing 1 0xA0 0xBF 0)
  else if b == 0xED then ([], .owing 1 0x80 0x9F 0xD)
  else if 0xE1 ≤ b && b ≤ 0xEF then ([], .owing 1 0x80 0xBF (b - 0xE0))
  else if b == 0xF0 then ([], .owing 2 0x90 0xBF 0)
  else if 0xF1 ≤ b && b ≤ 0xF3 then ([], .owing 2 0x80 0xBF (b - 0xF0))
  else if b == 0xF4 then ([], .owing 2 0x80 0x8F 4)
  else ([none], .start)

/-- The next octet: what is complete with it, and the state after it. An octet that cannot continue a
    character ends a refused beginning and is read again as a first octet. -/
def step : State → Nat → List (Option Char) × State
  | .start, b => first b
  | .owing more low high code, b =>
    if low ≤ b && b ≤ high then
      let code := code * 0x40 + (b - 0x80)
      match more with
      | 0 => ([some (Char.ofNat code)], .start)
      | more + 1 => ([], .owing more 0x80 0xBF code)
    else
      let (done, next) := first b
      (none :: done, next)

/-- The characters read from a state on; an unfinished character at the end is refused. -/
def itemsFrom : State → List UInt8 → List (Option Char)
  | .start, [] => []
  | .owing .., [] => [none]
  | state, b :: rest =>
    let (done, next) := step state b.toNat
    done ++ itemsFrom next rest

/-- The characters of an octet sequence, with `none` for each longest refused beginning. -/
def items (octets : List UInt8) : List (Option Char) :=
  itemsFrom .start octets

/-- The text of an octet sequence, in which U+FFFD stands for each refused beginning. -/
def decodeLossy (octets : List UInt8) : String :=
  String.ofList ((items octets).map (·.getD '\uFFFD'))

/-- The text of an octet sequence, if it is UTF-8. -/
def decode? (octets : List UInt8) : Option String :=
  ((items octets).mapM id).map String.ofList

/-- The octets of a text. -/
def encode (s : String) : List UInt8 :=
  s.toUTF8.data.toList

end RecordGate.Text.Utf8
