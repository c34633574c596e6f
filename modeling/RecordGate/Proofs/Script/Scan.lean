import RecordGate.Evaluation.Script
import RecordGate.Proofs.Text.Decimal

/-!
# `RecordGate.Proofs.Script.Scan` — a program text as the evaluator's scanner sees it

The scanner reads a program text character by character. It is in the code, in a literal in single quotation marks,
or in a literal in double quotation marks; there a backslash takes the next character with it, and a hash opens an
interpolation if `\x7b`, `$` or `@` follows. Opening an interpolation is the one thing that stops the scanner.

## Contents
- `Mode`, `Token`, `Scan` — where the scanner is, what it has found, and both together.
- `Scan.step`, `Scan.run`, `scan` — one character, many, and a whole text.
- `Reads` — a text that leads from code to code whatever stands before it; such texts can be joined.
- `reads_literal` — **a literal is read as one token with the text it was written for**, whatever that text is.
- `reads_ofQuery` — the tokens of a query's script.
-/

namespace RecordGate.Script

open Text Fragment

/-! ## The scanner -/

/-- A piece of a program text. -/
inductive Token where
  /-- A character of the code; literals in single quotation marks count as code. -/
  | code (c : Char)
  /-- A literal in double quotation marks, and the text it stands for. -/
  | text (body : List Char)
  deriving DecidableEq, Repr

/-- Where the scanner is. Inside double quotation marks it keeps the text read so far. -/
inductive Mode where
  | code
  | single
  | double (body : List Char)
  /-- Behind a backslash. -/
  | escape (body : List Char)
  /-- Behind a hash. -/
  | hash (body : List Char)
  deriving DecidableEq, Repr

/-- Where the scanner is, and the tokens before that place. -/
structure Scan where
  mode : Mode
  tokens : List Token
  deriving DecidableEq, Repr

/-- The characters that open an interpolation behind a hash. -/
def opensInterpolation (c : Char) : Bool :=
  c == '\x7b' || c == '$' || c == '@'

/-- Reads a character between double quotation marks that no backslash stands before. -/
def Scan.inside (tokens : List Token) (body : List Char) (c : Char) : Scan :=
  if c == '"' then ⟨.code, tokens ++ [.text body]⟩
  else if c == '\\' then ⟨.escape body, tokens⟩
  else if c == '#' then ⟨.hash (body ++ [c]), tokens⟩
  else ⟨.double (body ++ [c]), tokens⟩

/-- Reads one character; nothing comes of it when an interpolation opens. -/
def Scan.step (s : Scan) (c : Char) : Option Scan :=
  match s.mode with
  | .code =>
    if c == '"' then some ⟨.double [], s.tokens⟩
    else some ⟨if c == '\'' then .single else .code, s.tokens ++ [.code c]⟩
  | .single => some ⟨if c == '\'' then .code else .single, s.tokens ++ [.code c]⟩
  | .double body => some (Scan.inside s.tokens body c)
  | .escape body => some ⟨.double (body ++ [c]), s.tokens⟩
  | .hash body => if opensInterpolation c then none else some (Scan.inside s.tokens body c)

/-- Reads characters one after the other. -/
def Scan.run (s : Scan) (cs : List Char) : Option Scan :=
  cs.foldlM Scan.step s

/-- Reads a whole program text. -/
def scan (script : String) : Option Scan :=
  Scan.run ⟨.code, []⟩ script.toList

/-- What is left of a token when the bodies of literals in double quotation marks are erased. -/
def Token.erased : Token → List Char
  | .code c => [c]
  | .text _ => ['"', '"']

/-- A program text without the bodies of its literals in double quotation marks. -/
def erased (tokens : List Token) : String :=
  String.ofList (tokens.flatMap Token.erased)

/-- The text of a literal in double quotation marks. -/
def Token.text? : Token → Option String
  | .code _ => none
  | .text body => some (String.ofList body)

/-- The texts of all literals in double quotation marks, in order. -/
def texts (tokens : List Token) : List String :=
  tokens.filterMap Token.text?

/-! ## Running the scanner -/

theorem run_cons {s t : Scan} {c : Char} (h : s.step c = some t) (cs : List Char) :
    s.run (c :: cs) = t.run cs := by
  unfold Scan.run
  rw [List.foldlM_cons, h]
  rfl

/-- Scanning goes on behind a text from the state it ended in. -/
theorem run_append {s t : Scan} {cs : List Char} (h : s.run cs = some t) (ds : List Char) :
    s.run (cs ++ ds) = t.run ds := by
  unfold Scan.run at h ⊢
  rw [List.foldlM_append, h]
  rfl

/-- The text leads from code to code, and adds these tokens to those before it. -/
def Reads (cs : List Char) (added : List Token) : Prop :=
  ∀ tokens, Scan.run ⟨.code, tokens⟩ cs = some ⟨.code, tokens ++ added⟩

/-- Texts that are read as code are read one behind the other. -/
theorem Reads.append {cs ds : List Char} {us vs : List Token} (hcs : Reads cs us) (hds : Reads ds vs) :
    Reads (cs ++ ds) (us ++ vs) := by
  intro tokens
  rw [run_append (hcs tokens), hds, List.append_assoc]

theorem reads_nil : Reads [] [] := by
  intro tokens
  rw [List.append_nil]
  rfl

/-! ## Code -/

/-- Code without quotation marks, as tokens. -/
def codes (s : String) : List Token :=
  s.toList.map .code

/-- A character of the code that opens no literal. -/
def isPlain (c : Char) : Bool :=
  c != '"' && c != '\''

/-- Plain characters are read one by one as code. -/
theorem reads_plain {cs : List Char} (h : ∀ c ∈ cs, isPlain c = true) : Reads cs (cs.map .code) := by
  induction cs with
  | nil => exact reads_nil
  | cons c cs ih =>
    intro tokens
    have hc := h c List.mem_cons_self
    simp only [isPlain, Bool.and_eq_true, bne_iff_ne] at hc
    have hstep : Scan.step ⟨.code, tokens⟩ c = some ⟨.code, tokens ++ [.code c]⟩ := by
      simp [Scan.step, hc.1, hc.2]
    rw [run_cons hstep, ih (fun d hd => h d (List.mem_cons_of_mem c hd)), List.append_assoc]
    rfl

theorem reads_codes {s : String} (h : s.toList.all isPlain = true) : Reads s.toList (codes s) :=
  reads_plain (List.all_eq_true.mp h)

/-- Between single quotes everything but the quote is taken as it stands. -/
theorem run_single {cs : List Char} (h : '\'' ∉ cs) (tokens : List Token) :
    Scan.run ⟨.single, tokens⟩ cs = some ⟨.single, tokens ++ cs.map .code⟩ := by
  induction cs generalizing tokens with
  | nil => rw [List.map_nil, List.append_nil]; rfl
  | cons c cs ih =>
    have hc : c ≠ '\'' := fun he => h (he ▸ List.mem_cons_self)
    have hstep : Scan.step ⟨.single, tokens⟩ c = some ⟨.single, tokens ++ [.code c]⟩ := by
      simp [Scan.step, hc]
    rw [run_cons hstep, ih (fun hm => h (List.mem_cons_of_mem c hm)), List.append_assoc]
    rfl

/-- A literal in single quotation marks is read as code. -/
theorem reads_single {cs : List Char} (h : '\'' ∉ cs) :
    Reads ('\'' :: cs ++ ['\'']) (('\'' :: cs ++ ['\'']).map .code) := by
  intro tokens
  have hopen : Scan.step ⟨.code, tokens⟩ '\'' = some ⟨.single, tokens ++ [.code '\'']⟩ := rfl
  rw [List.cons_append, run_cons hopen, run_append (run_single h _)]
  simp [Scan.run, Scan.step]

/-- The prelude is code, its single-quoted text included. -/
theorem reads_prelude : Reads prelude.toList (codes prelude) := by
  have hsplit : prelude.toList = "require ".toList ++ ('\'' :: "./config/environment".toList ++ ['\'']) := by
    decide
  unfold codes
  rw [hsplit, List.map_append]
  exact (reads_codes (by decide)).append (reads_single (by decide))

/-! ## Literals -/

/-- **One escaped character.** Inside a literal it is read as the character itself, and the literal goes on. -/
theorem run_escaped (tokens : List Token) (body : List Char) (c : Char) :
    Scan.run ⟨.double body, tokens⟩ (escaped c) = some ⟨.double (body ++ [c]), tokens⟩ := by
  unfold escaped
  split
  · -- a backslash is written before the character, and takes it along whatever it is
    have hslash : Scan.step ⟨.double body, tokens⟩ '\\' = some ⟨.escape body, tokens⟩ := rfl
    rw [run_cons hslash]
    rfl
  · -- none is needed: the character neither ends the literal nor could start an interpolation
    rename_i hc
    simp only [Bool.or_eq_true, beq_iff_eq, not_or] at hc
    simp [Scan.run, Scan.step, Scan.inside, hc.1.1, hc.1.2, hc.2]

/-- Within a literal an escaped text is read as the text, and the literal stays open. -/
theorem run_flatMap_escaped (tokens : List Token) (body cs : List Char) :
    Scan.run ⟨.double body, tokens⟩ (cs.flatMap escaped) = some ⟨.double (body ++ cs), tokens⟩ := by
  induction cs generalizing body with
  | nil => rw [List.append_nil]; rfl
  | cons c cs ih =>
    rw [List.flatMap_cons, run_append (run_escaped tokens body c), ih, List.append_assoc]
    rfl

/-- A literal is the escaped text between double quotes. -/
theorem literal_toList (s : String) : (literal s).toList = '"' :: (s.toList.flatMap escaped ++ ['"']) :=
  String.toList_ofList

/-- **A literal is one token**, with the text it was written for: no text closes it early or opens an
    interpolation. -/
theorem reads_literal (s : String) : Reads (literal s).toList [.text s.toList] := by
  intro tokens
  have hopen : Scan.step ⟨.code, tokens⟩ '"' = some ⟨.double [], tokens⟩ := rfl
  rw [literal_toList, run_cons hopen, run_append (run_flatMap_escaped tokens [] s.toList)]
  rfl

/-! ## Queries -/

/-- The tokens of a call on a literal. -/
def callTokens (method : String) (text : String) : List Token :=
  codes ("." ++ method ++ "(") ++ [.text text.toList] ++ codes ")"

/-- The tokens of a call that is made if there is a text for it. -/
def clauseTokens (method : String) : Option String → List Token
  | none => []
  | some text => callTokens method text

/-- The tokens of the calls that bring a query into its form, and of what prints it. -/
def shapeTokens : Shape → List Token
  | .rows order limit => clauseTokens "order" order ++ codes (limitClause limit) ++ codes ".inspect"
  | .scalar .count => codes ".count"
  | .scalar (.column function name) => callTokens function.method name

/-- The tokens of a query's script. -/
def queryTokens (q : Query) : List Token :=
  codes prelude ++ codes "; puts " ++ codes q.entity ++ codes ".all" ++ clauseTokens "where" q.filter ++
    shapeTokens q.shape

/-- A call with a text is read as its method, the text in one literal, and the closing parenthesis. -/
theorem reads_call {method : String} (h : ("." ++ method ++ "(").toList.all isPlain = true) (text : String) :
    Reads ("." ++ method ++ "(" ++ literal text ++ ")").toList (callTokens method text) := by
  rw [String.toList_append, String.toList_append]
  exact ((reads_codes h).append (reads_literal text)).append (reads_codes (by decide))

/-- A clause is read as the call it is, or as nothing. -/
theorem reads_clause {method : String} (h : ("." ++ method ++ "(").toList.all isPlain = true)
    (text : Option String) : Reads (clause method text).toList (clauseTokens method text) := by
  cases text with
  | none => exact reads_nil
  | some text => exact reads_call h text

theorem isPlain_of_isAlphanumeric {c : Char} (h : isAlphanumeric c = true) : isPlain c = true := by
  simp only [isPlain, Bool.and_eq_true, bne_iff_ne]
  constructor
  · rintro rfl
    exact absurd h (by decide)
  · rintro rfl
    exact absurd h (by decide)

/-- A limit is code throughout. -/
theorem reads_limitClause (limit : Option Nat) : Reads (limitClause limit).toList (codes (limitClause limit)) := by
  cases limit with
  | none => exact reads_nil
  | some n =>
    refine reads_plain fun c hc => ?_
    simp only [limitClause, String.toList_append, List.mem_append] at hc
    rcases hc with (hc | hc) | hc
    · exact List.all_eq_true.mp (by decide) c hc
    · exact isPlain_of_isAlphanumeric (isAlphanumeric_iff.mpr (Or.inr (Or.inr (isAsciiDigit_of_mem_repr hc))))
    · exact List.all_eq_true.mp (by decide) c hc

/-- The calls that bring a query into its form, and the one that prints it. -/
def ending : Shape → String
  | .rows order limit => clause "order" order ++ limitClause limit ++ ".inspect"
  | .scalar aggregate => "." ++ aggregate.call

/-- **The parts of a query's script** in their order. -/
theorem ofQuery_eq (q : Query) :
    ofQuery q = prelude ++ "; puts " ++ q.entity ++ ".all" ++ clause "where" q.filter ++ ending q.shape := by
  obtain ⟨entity, filter, shape⟩ := q
  cases shape with
  | rows order limit =>
    simp [ofQuery, Query.expression, Query.isScalar, Shape.calls, ending, String.append_assoc]
  | scalar aggregate =>
    simp [ofQuery, Query.expression, Query.isScalar, Shape.calls, ending, String.append_assoc]

/-- The call of a column function is a call with the column in a literal. -/
theorem call_column_eq (function : ColumnFunction) (name : String) :
    "." ++ (Aggregate.column function name).call = "." ++ function.method ++ "(" ++ literal name ++ ")" := by
  simp only [Aggregate.call, String.append_assoc]

/-- What follows the filter of a query is read as the tokens of its shape. -/
theorem reads_ending (shape : Shape) : Reads (ending shape).toList (shapeTokens shape) := by
  cases shape with
  | rows order limit =>
    simp only [ending, String.toList_append]
    exact ((reads_clause (by decide) order).append (reads_limitClause limit)).append (reads_codes (by decide))
  | scalar aggregate =>
    cases aggregate with
    | count => exact reads_codes (by decide)
    | column function name =>
      have hplain : ("." ++ function.method ++ "(").toList.all isPlain = true := by
        cases function <;> decide
      show Reads ("." ++ (Aggregate.column function name).call).toList (callTokens function.method name)
      rw [call_column_eq]
      exact reads_call hplain name

/-- **The tokens of a query's script.** Only the entity has to be known; its texts may be any texts. -/
theorem reads_ofQuery {q : Query} (h : ∀ c ∈ q.entity.toList, isAlphanumeric c = true) :
    Reads (ofQuery q).toList (queryTokens q) := by
  have hentity : Reads q.entity.toList (codes q.entity) :=
    reads_plain fun c hc => isPlain_of_isAlphanumeric (h c hc)
  rw [ofQuery_eq]
  simp only [String.toList_append]
  have hfront : Reads (prelude.toList ++ "; puts ".toList ++ q.entity.toList ++ ".all".toList)
      (codes prelude ++ codes "; puts " ++ codes q.entity ++ codes ".all") :=
    ((reads_prelude.append (reads_codes (by decide))).append hentity).append (reads_codes (by decide))
  exact (hfront.append (reads_clause (by decide) q.filter)).append (reads_ending q.shape)

/-- The whole script is scanned to the tokens of its query, and ends in code. -/
theorem scan_ofQuery {q : Query} (h : ∀ c ∈ q.entity.toList, isAlphanumeric c = true) :
    scan (ofQuery q) = some ⟨.code, queryTokens q⟩ :=
  reads_ofQuery h []

end RecordGate.Script
