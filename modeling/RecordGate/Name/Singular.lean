import RecordGate.Text.Letter

/-!
# `RecordGate.Name.Singular` — the singular of an English noun

An ordered list of rules changes the end of a word; the first rule that applies decides. A rule names what the word
must end with, in two parts: a part that is kept as it stands, in the case it is written in, and a part that is
dropped and replaced by lower-case letters. Letters are compared up to case.

## Contents
- `Glyph`, `likes`, `endsLike` — patterns of letters, and where they occur.
- `Rule`, `Rule.applied?` — the two kinds of rules: at the end of a word, and at its start.
- `uncountable`, `irregular`, `rules` — the English data.
- `singular` — the word after the first rule that applies.
-/

namespace RecordGate.Name

open Text

/-! ## Patterns -/

/-- What stands for one character in a pattern, written in lower case and read up to case. -/
inductive Glyph where
  /-- This letter. -/
  | letter (l : Char)
  /-- One of these letters. -/
  | oneOf (ls : List Char)
  /-- Any character but these letters. -/
  | noneOf (ls : List Char)

/-- Whether the character `c` fits. -/
def Glyph.likes : Glyph → Char → Bool
  | .letter l, c => sameLetter l c
  | .oneOf ls, c => ls.any (sameLetter · c)
  | .noneOf ls, c => !ls.any (sameLetter · c)

/-- The pattern of a word's letters. -/
def spelled (word : String) : List Glyph :=
  word.toList.map .letter

/-- Whether the pattern fits all of `cs`. -/
def likes : List Glyph → List Char → Bool
  | [], [] => true
  | g :: gs, c :: cs => g.likes c && likes gs cs
  | _, _ => false

/-- Whether the pattern fits an end of `cs`. -/
def endsLike (pattern : List Glyph) (cs : List Char) : Bool :=
  likes pattern (cs.drop (cs.length - pattern.length))

/-! ## Rules -/

/-- A rule changes a word of a certain shape. -/
inductive Rule where
  /-- The word ends with one of `kept` and then one of `dropped`, which gives way to `added`; if `whole`, it is
      nothing else. -/
  | ending (whole : Bool) (kept : List (List Glyph)) (dropped : List String) (added : String)
  /-- The word starts with `kept` and then `dropped`, which is left out. -/
  | opening (kept dropped : String)

/-- The word after dropping `dropped` behind one of `kept` at its end, and adding `added`. -/
def replaceEnd? (whole : Bool) (kept : List (List Glyph)) (dropped added : String) (word : List Char) :
    Option (List Char) :=
  let ends (k : List Glyph) : Bool :=
    let pattern := k ++ spelled dropped
    if whole then likes pattern word else endsLike pattern word
  if kept.any ends then some (word.take (word.length - dropped.length) ++ added.toList) else none

/-- What the rule makes of a word, if it applies. -/
def Rule.applied? : Rule → List Char → Option (List Char)
  | .ending whole kept dropped added, word =>
    dropped.findSome? fun d => replaceEnd? whole kept d added word
  | .opening kept dropped, word =>
    (afterWord? (kept.toList ++ dropped.toList) word).map fun rest =>
      word.take kept.length ++ rest

/-! ## The rules of English -/

/-- Words that are their own singular. -/
def uncountable : List String :=
  ["equipment", "information", "rice", "money", "species", "series", "fish", "sheep", "jeans", "police"]

/-- Words whose plural is irregular, as singular and plural. -/
def irregular : List (String × String) :=
  [("person", "people"), ("man", "men"), ("child", "children"), ("sex", "sexes"), ("move", "moves"),
    ("zombie", "zombies")]

/-- The rule that keeps the first letter of `word` and turns the others into those of `singular`. -/
def Rule.respell (word singular : String) : Rule :=
  .ending false [(spelled word).take 1] [String.ofList (word.toList.drop 1)] (String.ofList (singular.toList.drop 1))

/-- An irregular plural is respelled, and its singular is left as it is. -/
def Rule.ofIrregular (pair : String × String) : List Rule :=
  [.respell pair.2 pair.1, .respell pair.1 pair.1]

/-- A rule on words that end with one of `kept` and then one of `dropped`. -/
def Rule.suffix (kept dropped : List String) (added : String) : Rule :=
  .ending false (kept.map spelled) dropped added

/-- A rule on words that are one of `kept` and then one of `dropped`. -/
def Rule.word (kept dropped : List String) (added : String) : Rule :=
  .ending true (kept.map spelled) dropped added

/-- The rules for regular and Latin or Greek endings, in order of precedence. -/
def endings : List Rule :=
  [.suffix ["database"] ["s"] "",
    .suffix ["quiz"] ["zes"] "",
    .suffix ["matr"] ["ices"] "ix",
    .suffix ["vert", "ind"] ["ices"] "ex",
    .opening "ox" "en",
    .suffix ["alias", "status"] ["es", ""] "",
    .suffix ["octop", "vir"] ["us", "i"] "us",
    .word ["a"] ["xis", "xes"] "xis",
    .suffix ["cris", "test"] ["is", "es"] "is",
    .suffix ["shoe"] ["s"] "",
    .suffix ["o"] ["es"] "",
    .suffix ["bus"] ["es", ""] "",
    .word ["m", "l"] ["ice"] "ouse",
    .suffix ["x", "ch", "ss", "sh"] ["es"] "",
    .suffix ["m"] ["ovies"] "ovie",
    .suffix ["s"] ["eries"] "eries",
    .ending false [[.noneOf ['a', 'e', 'i', 'o', 'u', 'y']], spelled "qu"] ["ies"] "y",
    .ending false [[.oneOf ['l', 'r']]] ["ves"] "f",
    .suffix ["tive"] ["s"] "",
    .suffix ["hive"] ["s"] "",
    .ending false [[.noneOf ['f']]] ["ves"] "fe",
    .word ["analy"] ["sis", "ses"] "sis",
    .suffix ["analy", "ba", "diagno", "parenthe", "progno", "synop", "the"] ["sis", "ses"] "sis",
    .ending false [[.oneOf ['t', 'i']]] ["a"] "um",
    .suffix ["n"] ["ews"] "ews",
    .suffix ["ss"] [""] "",
    .suffix [""] ["s"] ""]

/-- All rules in order of precedence: irregular words first. -/
def rules : List Rule :=
  irregular.flatMap Rule.ofIrregular ++ endings

/-! ## The singular -/

/-- Whether a word is its own singular, whatever the case of its ASCII letters. -/
def isUncountable (word : List Char) : Bool :=
  uncountable.any fun u => u.toList == word.map lower

/-- The word after the first rule that applies; the word itself if it is uncountable, if no rule applies, or if
    nothing would be left of it. -/
def singular (word : List Char) : List Char :=
  if isUncountable word then word
  else
    match rules.findSome? (·.applied? word) with
    | some [] | none => word
    | some other => other

/-- The singular of an English noun. -/
def singularOf (s : String) : String :=
  String.ofList (singular s.toList)

end RecordGate.Name
