import RecordGate.Proofs.Query.Compile
import RecordGate.Proofs.Script.Scan

/-!
# `RecordGate.Proofs.Script.Confinement` — what a request can and cannot say in the evaluator's language

Whatever a request contains, the scanner of the evaluator's language reads the script of its query to the end, is
back in the code there, and has met no interpolation. With the bodies of its literals erased, the script is the
query's `skeleton`: a text that depends on the request only through the name of a constant, through which parts
the query has, and through the digits of a limit (`confined_of_compile`).
-/

namespace RecordGate.Script

open Text Fragment Name

/-! ## The skeleton of a script -/

/-- What follows `.all` and the filter, by the form of the answer, with empty literals. -/
def shapeSkeleton : Shape → String
  | .rows order limit =>
    (if order.isSome then ".order(\"\")" else "") ++
      (match limit with
      | none => ""
      | some n => ".limit(" ++ Nat.repr n ++ ")") ++ ".inspect"
  | .scalar .count => ".count"
  | .scalar (.column .count _) => ".count(\"\")"
  | .scalar (.column .sum _) => ".sum(\"\")"
  | .scalar (.column .average _) => ".average(\"\")"
  | .scalar (.column .minimum _) => ".minimum(\"\")"
  | .scalar (.column .maximum _) => ".maximum(\"\")"

/-- The script of a query with empty literals. -/
def skeleton (q : Query) : String :=
  "require './config/environment'; puts " ++ q.entity ++ ".all" ++
    (if q.filter.isSome then ".where(\"\")" else "") ++ shapeSkeleton q.shape

/-- **A query is confined** when nothing in its script but code of a known form is read as code. -/
structure Confined (q : Query) : Prop where
  /-- The scanner ends in the code, and what it has read as code is the skeleton. -/
  scanned : ∃ tokens, scan (ofQuery q) = some ⟨.code, tokens⟩ ∧ erased tokens = skeleton q
  /-- The entity is a constant: an ASCII upper-case letter, then ASCII letters and digits. -/
  entity : isConstant q.entity.toList = true
  /-- A limit is written in decimal digits and fits into 63 bits. -/
  limit : ∀ order n, q.shape = .rows order (some n) →
    Nat.repr n ≠ "" ∧ (∀ c ∈ (Nat.repr n).toList, isAsciiDigit c = true) ∧
      Nat.ofDigitChars 10 (Nat.repr n).toList 0 = n ∧ n ≤ 0x7FFFFFFFFFFFFFFF

/-! ## Erasing -/

theorem erased_append (us vs : List Token) : erased (us ++ vs) = erased us ++ erased vs := by
  unfold erased
  rw [List.flatMap_append, String.ofList_append]

/-- Code is kept as it is when the literals are emptied. -/
theorem erased_codes (s : String) : erased (codes s) = s := by
  unfold erased codes
  rw [List.flatMap_map]
  simp [Token.erased]

theorem erased_text (body : List Char) : erased [.text body] = "\"\"" := rfl

/-- A call keeps its method and its parentheses, its literal emptied. -/
theorem erased_callTokens (method text : String) :
    erased (callTokens method text) = "." ++ method ++ "(" ++ "\"\"" ++ ")" := by
  unfold callTokens
  rw [erased_append, erased_append, erased_codes, erased_codes, erased_text]

/-- A clause shows whether its text is given and nothing else of it. -/
theorem erased_clauseTokens (method : String) (text : Option String) :
    erased (clauseTokens method text) = if text.isSome then "." ++ method ++ "(" ++ "\"\"" ++ ")" else "" := by
  cases text with
  | none => rfl
  | some text => exact erased_callTokens method text

/-- What the shape of a query leaves once its literals are emptied. -/
theorem erased_shapeTokens (shape : Shape) : erased (shapeTokens shape) = shapeSkeleton shape := by
  cases shape with
  | rows order limit =>
    simp only [shapeTokens, erased_append, erased_codes, erased_clauseTokens]
    cases limit <;> rfl
  | scalar aggregate =>
    cases aggregate with
    | count => rfl
    | column function name =>
      simp only [shapeTokens, erased_callTokens]
      cases function <;> rfl

/-- A query leaves its skeleton once its literals are emptied. -/
theorem erased_queryTokens (q : Query) : erased (queryTokens q) = skeleton q := by
  simp only [queryTokens, erased_append, erased_codes, erased_clauseTokens, erased_shapeTokens]
  rfl

/-! ## Confinement -/

/-- **No request escapes from its literals.** The query of every request that compiles is confined. -/
theorem confined_of_compile {r : Request} {q : Query} (h : r.compile = .ok q) : Confined q where
  scanned :=
    ⟨queryTokens q, scan_ofQuery (isAlphanumeric_of_isConstant (isConstant_of_compile h)), erased_queryTokens q⟩
  entity := isConstant_of_compile h
  limit := by
    intro order n hs
    exact ⟨Nat.repr_ne_empty, fun c hc => isAsciiDigit_of_mem_repr hc, ofDigitChars_repr n,
      limit_le_of_compile h hs⟩

/-- A request whose fragments try to close their literals, to interpolate, and to look like clauses. -/
def hostile : Request where
  collection := some " blog_posts "
  filter := some "\").limit(1) # \"#\x7b`id`\x7d\" '#$0"
  order := some " id DESC "
  limit := some (-3)

/-- The query of the hostile request. -/
def hostileQuery : Query :=
  ⟨"BlogPost", hostile.filter, .rows (some "id DESC") (some 0)⟩

/-- A filter that closes the literal and starts an interpolation stays within its literal. -/
theorem confined_hostileQuery : hostile.compile = .ok hostileQuery ∧ Confined hostileQuery := by
  have h : hostile.compile = .ok hostileQuery := by rfl
  exact ⟨h, confined_of_compile h⟩

end RecordGate.Script
