import RecordGate.Shell.Octets

/-!
# `RecordGate.Shell.Pattern` — patterns of texts

In a pattern `*` matches any text, `?` any octet, and brackets one octet of a set; all else matches itself, and so
does what is quoted.

## Contents
- `Glyph` — an octet, and whether it is quoted.
- `Atom`, `atoms` — what a pattern consists of.
- `matchesAll` — whether a pattern matches a whole text.
- `stripped` — a text without what a pattern matches at one of its ends.
-/

namespace RecordGate.Shell

/-- An octet, and whether it is quoted. -/
abbrev Glyph := Char × Bool

/-- What a pattern consists of. -/
inductive Atom where
  /-- Any text. -/
  | anyText
  /-- Any octet. -/
  | anyOctet
  /-- This octet. -/
  | only (c : Char)
  /-- An octet in one of the ranges, or in none of them. -/
  | range (negated : Bool) (ranges : List (Char × Char))
  deriving DecidableEq, Repr

/-- The ranges of a set up to its closing bracket, and what follows that. -/
def rangesOf : List Glyph → Option (List (Char × Char) × List Glyph)
  | [] => none
  | (']', false) :: rest => some ([], rest)
  | (c, _) :: ('-', false) :: (']', false) :: rest => some ([(c, c), ('-', '-')], rest)
  | (c, _) :: ('-', false) :: (d, _) :: rest => (rangesOf rest).map fun (ranges, rest) => ((c, d) :: ranges, rest)
  | (c, _) :: rest => (rangesOf rest).map fun (ranges, rest) => ((c, c) :: ranges, rest)

/-- The ranges of a set. A closing bracket that comes first belongs to it. -/
def setOf : List Glyph → Option (List (Char × Char) × List Glyph)
  | (']', false) :: rest => (rangesOf rest).map fun (ranges, rest) => ((']', ']') :: ranges, rest)
  | rest => rangesOf rest

/-- The atoms of a pattern of at most `fuel` octets. -/
def atomsWithin (fuel : Nat) (pattern : List Glyph) : List Atom :=
  match fuel, pattern with
  | 0, _ | _, [] => []
  | fuel + 1, (c, quoted) :: rest =>
    if quoted then .only c :: atomsWithin fuel rest
    else
      match c with
      | '*' => .anyText :: atomsWithin fuel rest
      | '?' => .anyOctet :: atomsWithin fuel rest
      | '[' =>
        let (negated, inside) := match rest with
          | ('!', false) :: inside | ('^', false) :: inside => (true, inside)
          | inside => (false, inside)
        match setOf inside with
        | some (ranges, rest) => .range negated ranges :: atomsWithin fuel rest
        | none => .only '[' :: atomsWithin fuel rest
      | c => .only c :: atomsWithin fuel rest

/-- The atoms of a pattern. -/
def atoms (pattern : List Glyph) : List Atom :=
  atomsWithin pattern.length pattern

/-- The ends of a text, from the whole text to the empty one. -/
def ends : Octets → List Octets
  | [] => [[]]
  | c :: rest => (c :: rest) :: ends rest

/-- The starts of a text, from the empty one to the whole text. -/
def starts : Octets → List Octets
  | [] => [[]]
  | c :: rest => [] :: (starts rest).map (c :: ·)

/-- Whether atoms match a whole text. -/
def matchesAll : List Atom → Octets → Bool
  | [], cs => cs.isEmpty
  | .anyText :: atoms, cs => (ends cs).any fun cs => matchesAll atoms cs
  | .anyOctet :: atoms, _ :: cs => matchesAll atoms cs
  | .only a :: atoms, c :: cs => a == c && matchesAll atoms cs
  | .range negated ranges :: atoms, c :: cs =>
    (ranges.any fun (low, high) => low ≤ c && c ≤ high) != negated && matchesAll atoms cs
  | _ :: _, [] => false

/-- A text without the longest or shortest part at its start or end that a pattern matches. -/
def stripped (atEnd longest : Bool) (pattern : List Atom) (cs : Octets) : Octets :=
  let parts := if atEnd then (ends cs).reverse else starts cs
  let parts := if longest then parts.reverse else parts
  match parts.find? fun part => matchesAll pattern part with
  | none => cs
  | some part => if atEnd then cs.take (cs.length - part.length) else cs.drop part.length

end RecordGate.Shell
