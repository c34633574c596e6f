import RecordGate.Json.Basic

/-!
# `RecordGate.Protocol.Form` — what parameters have to look like

A form describes JSON values by their types. It is looser than a schema: an object may have members that its form
does not speak of, a record may be written as the list of its values, and a case may be given by its number.

## Contents
- `Form`, `Form.admits` — forms, and the values they admit.
- `casePosition?` — the case that a label stands for.
-/

namespace RecordGate.Protocol

/-- What a value has to look like. -/
inductive Form where
  /-- A text. -/
  | text
  /-- A truth value. -/
  | flag
  /-- A number. -/
  | number
  /-- A text, or an integer that 64 bits with a sign hold. -/
  | token
  /-- One of these words, alone or as the one member of an object, with nothing in it. -/
  | word (words : List String)
  /-- An object whose members of these names have these forms. -/
  | object (members : List (String × Form))
  /-- An object whose members have values of one form. -/
  | table (form : Form)
  /-- A list of values of one form. -/
  | list (form : Form)
  /-- A value of this form, or `null`, or none at all. -/
  | optional (form : Form)
  /-- An object as above, or the list of the values of its members: all of them, in this order. -/
  | record (members : List (String × Form))
  /-- One of several cases, each with its form. The label that tells which is the member `label` of an object, or the
      first of a list. -/
  | oneOf (label : String) (cases : List (String × Form))

/-! ## Labels and tokens -/

/-- The case that a label stands for: its name, or its position counted from zero. -/
def casePosition? (names : List String) : Json → Option Nat
  | .string name => names.idxOf? name
  | .number (.whole n) => if 0 ≤ n then some n.toNat else none
  | _ => none

/-- Whether a number can be a token. -/
def isTokenNumeral : Json.Numeral → Bool
  | .whole n => -0x8000000000000000 ≤ n && n < 0x8000000000000000
  | _ => false

/-- Whether a value has nothing in it: `null`, or an object without members. -/
def isVoid : Json → Bool
  | .null | .object [] => true
  | _ => false

/-! ## Admission -/

mutual

/-- Whether a form admits a value, or the lack of one. -/
def Form.admits : Form → Option Json → Bool
  | .optional _, none | .optional _, some .null => true
  | .optional form, some value => form.admits (some value)
  | .text, some (.string _) => true
  | .flag, some (.bool _) => true
  | .number, some (.number _) => true
  | .token, some (.string _) => true
  | .token, some (.number n) => isTokenNumeral n
  | .word words, some (.string s) => words.contains s
  | .word words, some (.object [(name, value)]) => words.contains name && isVoid value
  | .object forms, some (.object members) => membersAdmitted forms members
  | .table form, some (.object members) => members.all fun member => form.admits (some member.2)
  | .list form, some (.array items) => items.all fun item => form.admits (some item)
  | .record forms, some (.object members) => membersAdmitted forms members
  | .record forms, some (.array items) => itemsAdmitted forms items
  | .oneOf label cases, some (.object members) =>
    ((Json.lookup members label).bind (casePosition? (cases.map (·.1)))).any fun position =>
      caseAdmitted cases position (.object members)
  | .oneOf _ cases, some (.array (label :: items)) =>
    (casePosition? (cases.map (·.1)) label).any fun position => caseAdmitted cases position (.array items)
  | _, _ => false

/-- Whether the members of an object have the values that these forms ask for. -/
def membersAdmitted : List (String × Form) → List (String × Json) → Bool
  | [], _ => true
  | (name, form) :: forms, members => form.admits (Json.lookup members name) && membersAdmitted forms members

/-- Whether these are the values that these forms ask for, one for each. -/
def itemsAdmitted : List (String × Form) → List Json → Bool
  | [], [] => true
  | (_, form) :: forms, item :: items => form.admits (some item) && itemsAdmitted forms items
  | _, _ => false

/-- Whether the case at a position admits a value. -/
def caseAdmitted : List (String × Form) → Nat → Json → Bool
  | [], _, _ => false
  | (_, form) :: _, 0, value => form.admits (some value)
  | _ :: cases, position + 1, value => caseAdmitted cases position value

end

end RecordGate.Protocol
