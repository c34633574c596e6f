import Mathlib.Data.List.Basic
import RecordGate.Proofs.Script.Scan

/-!
# `RecordGate.Proofs.Script.Decode` — a script determines its query

A query can be read back from its script: past the prelude, the entity is what stands before the first dot, and
the clauses follow in a fixed order, each present or absent. Literals are read by taking the character behind a
backslash as it stands. Since a clause that is absent is recognised by what stands in its place
(`after?_eq_none`), and a literal by its closing quotation mark whatever its text (`readBody_escaped`), nothing is
lost: two queries with one script, or with one expression, are equal.
-/

namespace RecordGate.Script

open Text Fragment

/-! ## Reading parts of a text -/

/-- What follows `expected`, if the text starts with it. -/
def after? (expected : String) (cs : List Char) : Option (List Char) :=
  expected.toList.isPrefixOf? cs

/-- The text of a literal up to its closing quotation mark, and what follows that. -/
def readBody : List Char → Option (List Char × List Char)
  | [] => none
  | '"' :: cs => some ([], cs)
  | '\\' :: c :: cs => (readBody cs).map fun r => (c :: r.1, r.2)
  | c :: cs => (readBody cs).map fun r => (c :: r.1, r.2)

/-- The text of the literal that `method` is called on, if such a call is next, and what follows the call. -/
def call? (method : String) (cs : List Char) : Option (String × List Char) :=
  (after? ("." ++ method ++ "(\"") cs).bind fun cs =>
    (readBody cs).bind fun r => (after? ")" r.2).map fun rest => (String.ofList r.1, rest)

/-- The text of a clause, if it is there, and what follows it. -/
def readClause (method : String) (cs : List Char) : Option String × List Char :=
  match call? method cs with
  | some r => (some r.1, r.2)
  | none => (none, cs)

/-- A limit, if there is one, and what follows it. -/
def readLimit (cs : List Char) : Option Nat × List Char :=
  match after? ".limit(" cs with
  | none => (none, cs)
  | some digits =>
    (some (Nat.ofDigitChars 10 (digits.takeWhile isAsciiDigit) 0), (digits.dropWhile isAsciiDigit).drop 1)

/-- The functions of a column. -/
def columnFunctions : List ColumnFunction :=
  [.count, .sum, .average, .minimum, .maximum]

/-- The reduction of a column that is called next, and what follows the call. -/
def columnCall? (cs : List Char) : Option (Shape × List Char) :=
  columnFunctions.findSome? fun function =>
    (call? function.method cs).map fun r => (.scalar (.column function r.1), r.2)

/-- The form of the answer, and what follows the calls that bring the query into it. -/
def readShape (cs : List Char) : Shape × List Char :=
  match columnCall? cs with
  | some r => r
  | none =>
    match after? ".count" cs with
    | some rest => (.scalar .count, rest)
    | none =>
      let order := readClause "order" cs
      let limit := readLimit order.2
      (.rows order.1 limit.1, limit.2)

/-- The query of an expression, and what follows the expression. -/
def readExpression (cs : List Char) : Option (Query × List Char) :=
  (after? ".all" (cs.dropWhile (· != '.'))).map fun rest =>
    let filter := readClause "where" rest
    let shape := readShape filter.2
    (⟨String.ofList (cs.takeWhile (· != '.')), filter.1, shape.1⟩, shape.2)

/-- What has to follow the expression of a query in its script. -/
def printing (q : Query) : String :=
  if q.isScalar then "" else ".inspect"

/-- **The query of a script**, if it is one. -/
def decode (script : String) : Option Query :=
  (after? "require './config/environment'; puts " script.toList).bind fun cs =>
    (readExpression cs).bind fun r => if r.2 == (printing r.1).toList then some r.1 else none

/-! ## Texts that are there, and texts that are not -/

/-- The text behind a start that is there. -/
theorem after?_append (s : String) (cs : List Char) : after? s (s.toList ++ cs) = some cs :=
  List.isPrefixOf?_eq_some_iff_append_eq.mpr rfl

/-- Neither text starts with the other. -/
def diverges (s t : String) : Bool :=
  !s.toList.isPrefixOf t.toList && !t.toList.isPrefixOf s.toList

/-- The text is empty, or one of `ts` is next. -/
def Opens (ts : List String) (cs : List Char) : Prop :=
  cs = [] ∨ ∃ t ∈ ts, ∃ rest, cs = t.toList ++ rest

/-- **A text is not there** when something else stands in its place. -/
theorem after?_eq_none {s : String} {ts : List String} {cs : List Char} (hs : s ≠ "")
    (hts : ts.all (diverges s) = true) (h : Opens ts cs) : after? s cs = none := by
  rw [Option.eq_none_iff_forall_ne_some]
  intro found hfound
  have heq : s.toList ++ found = cs := List.isPrefixOf?_eq_some_iff_append_eq.mp hfound
  rcases h with rfl | ⟨t, ht, rest, rfl⟩
  · have hnil : s.toList = [] := (List.append_eq_nil_iff.mp heq).1
    exact hs (String.toList_eq_nil_iff.mp hnil)
  · have hdiv := List.all_eq_true.mp hts t ht
    simp only [diverges, Bool.and_eq_true, Bool.not_eq_true', Bool.eq_false_iff, ne_eq,
      List.isPrefixOf_iff_prefix] at hdiv
    -- of two texts that one text starts with, one starts with the other
    have hspre : s.toList <+: t.toList ++ rest := ⟨found, heq⟩
    have htpre : t.toList <+: t.toList ++ rest := List.prefix_append t.toList rest
    rcases List.prefix_or_prefix_of_prefix hspre htpre with hpre | hpre
    · exact hdiv.1 hpre
    · exact hdiv.2 hpre

/-- No call of the method is read where the text opens otherwise. -/
theorem call?_eq_none {method : String} {ts : List String} {cs : List Char}
    (hne : "." ++ method ++ "(\"" ≠ "") (hts : ts.all (diverges ("." ++ method ++ "(\"")) = true)
    (h : Opens ts cs) : call? method cs = none := by
  unfold call?
  rw [after?_eq_none hne hts h]
  rfl

/-! ## Literals -/

theorem readBody_cons {c : Char} (hquote : c ≠ '"') (hslash : c ≠ '\\') (cs : List Char) :
    readBody (c :: cs) = (readBody cs).map fun r => (c :: r.1, r.2) := by
  rw [readBody]
  · exact hquote
  · intro d ds hc
    exact absurd hc hslash

/-- A literal's body is read back from its escaped form, up to the closing quote. -/
theorem readBody_escaped (cs rest : List Char) :
    readBody (cs.flatMap escaped ++ '"' :: rest) = some (cs, rest) := by
  induction cs with
  | nil => rfl
  | cons c cs ih =>
    rw [List.flatMap_cons, List.append_assoc]
    by_cases hc : (c == '"' || c == '#' || c == '\\') = true
    · have hescaped : escaped c = ['\\', c] := if_pos hc
      rw [hescaped]
      show (readBody (cs.flatMap escaped ++ '"' :: rest)).map (fun r => (c :: r.1, r.2)) = some (c :: cs, rest)
      rw [ih]
      rfl
    · have hescaped : escaped c = [c] := if_neg hc
      simp only [Bool.or_eq_true, beq_iff_eq, not_or] at hc
      rw [hescaped, List.singleton_append, readBody_cons hc.1.1 hc.2, ih]
      rfl

/-- A call spelled out as characters: its opening, the escaped body, the closing quote and parenthesis. -/
theorem call_toList (method text : String) (rest : List Char) :
    ("." ++ method ++ "(" ++ literal text ++ ")").toList ++ rest =
      ("." ++ method ++ "(\"").toList ++ (text.toList.flatMap escaped ++ '"' :: (")".toList ++ rest)) := by
  simp [String.toList_append, literal_toList, List.append_assoc]

/-- **A call on a literal is read with the text it was written for.** -/
theorem call?_call (method text : String) (rest : List Char) :
    call? method (("." ++ method ++ "(" ++ literal text ++ ")").toList ++ rest) = some (text, rest) := by
  unfold call?
  rw [call_toList, after?_append, Option.bind_some, readBody_escaped, Option.bind_some, after?_append,
    String.ofList_toList]
  rfl

/-- A clause is read back; where it is absent, nothing that follows is mistaken for it. -/
theorem readClause_clause {method : String} {text : Option String} {rest : List Char}
    (h : text = none → call? method rest = none) :
    readClause method ((clause method text).toList ++ rest) = (text, rest) := by
  cases text with
  | none =>
    show readClause method rest = (none, rest)
    unfold readClause
    rw [h rfl]
  | some text =>
    unfold readClause clause
    rw [call?_call]

/-! ## Limits -/

/-- The limit is read back; where it is absent, nothing that follows is mistaken for it. -/
theorem readLimit_limitClause {limit : Option Nat} {rest : List Char}
    (h : limit = none → after? ".limit(" rest = none) :
    readLimit ((limitClause limit).toList ++ rest) = (limit, rest) := by
  cases limit with
  | none =>
    show readLimit rest = (none, rest)
    unfold readLimit
    rw [h rfl]
  | some n =>
    have hdigits : ∀ c ∈ (Nat.repr n).toList, isAsciiDigit c = true := fun c hc => isAsciiDigit_of_mem_repr hc
    have htext : (limitClause (some n)).toList ++ rest =
        ".limit(".toList ++ ((Nat.repr n).toList ++ (")".toList ++ rest)) := by
      simp only [limitClause, String.toList_append, List.append_assoc]
    have hend : ∀ c ∈ (")".toList ++ rest).head?, isAsciiDigit c = false := by
      rintro c ⟨⟩
      rfl
    unfold readLimit
    rw [htext, after?_append]
    dsimp only
    rw [takeWhile_isAsciiDigit_append hdigits hend, dropWhile_isAsciiDigit_append hdigits hend, ofDigitChars_repr]
    rfl

/-! ## Forms of answers -/

/-- What may follow an expression. -/
def Ends (tail : List Char) : Prop :=
  tail = [] ∨ tail = ".inspect".toList

/-- The end of an expression opens with its printing. -/
theorem opens_of_ends {tail : List Char} (h : Ends tail) : Opens [".inspect"] tail := by
  rcases h with rfl | rfl
  · exact Or.inl rfl
  · exact Or.inr ⟨".inspect", List.mem_cons_self, [], (List.append_nil _).symm⟩

theorem Opens.mono {ts us : List String} {cs : List Char} (h : Opens ts cs) (hsub : ts ⊆ us) : Opens us cs := by
  rcases h with rfl | ⟨t, ht, hrest⟩
  · exact Or.inl rfl
  · exact Or.inr ⟨t, hsub ht, hrest⟩

/-- What can open the text behind the order: a limit, or the printing. -/
theorem opens_limitClause {tail : List Char} (h : Ends tail) (limit : Option Nat) :
    Opens [".limit(", ".inspect"] ((limitClause limit).toList ++ tail) := by
  cases limit with
  | none => exact (opens_of_ends h).mono (by simp)
  | some n =>
    refine Or.inr ⟨".limit(", List.mem_cons_self, (Nat.repr n).toList ++ (")".toList ++ tail), ?_⟩
    simp only [limitClause, String.toList_append, List.append_assoc]

/-- What can open the text behind the filter of a listing: an order, a limit, or the printing. -/
theorem opens_rows {tail : List Char} (h : Ends tail) (order : Option String) (limit : Option Nat) :
    Opens [".order(\"", ".limit(", ".inspect"]
      ((clause "order" order).toList ++ ((limitClause limit).toList ++ tail)) := by
  cases order with
  | none => exact (opens_limitClause h limit).mono (by simp)
  | some text => exact Or.inr ⟨".order(\"", List.mem_cons_self, _, call_toList "order" text _⟩

/-- A column function's call opens with its own method. -/
theorem opens_column (function : ColumnFunction) (name : String) (tail : List Char) :
    Opens ["." ++ function.method ++ "(\""]
      (("." ++ (Aggregate.column function name).call).toList ++ tail) := by
  rw [call_column_eq]
  exact Or.inr ⟨_, List.mem_cons_self, _, call_toList function.method name tail⟩

/-- What can open the text behind the filter of any query. -/
theorem opens_shape {tail : List Char} (h : Ends tail) (shape : Shape) :
    Opens [".order(\"", ".limit(", ".inspect", ".count", ".sum(\"", ".average(\"", ".minimum(\"", ".maximum(\""]
      (shape.calls.toList ++ tail) := by
  cases shape with
  | rows order limit =>
    simp only [Shape.calls, String.toList_append, List.append_assoc]
    exact (opens_rows h order limit).mono (by simp)
  | scalar aggregate =>
    cases aggregate with
    | count => exact Or.inr ⟨".count", by simp, tail, rfl⟩
    | column function name =>
      obtain hnil | ⟨t, ht, rest, heq⟩ := opens_column function name tail
      · exact Or.inl hnil
      · rw [List.mem_singleton] at ht
        subst ht
        cases function with
        | count =>
          -- the call on a column starts with the call on all records
          exact Or.inr ⟨".count", by simp, "(\"".toList ++ rest, heq⟩
        | sum => exact Or.inr ⟨".sum(\"", by simp, rest, heq⟩
        | average => exact Or.inr ⟨".average(\"", by simp, rest, heq⟩
        | minimum => exact Or.inr ⟨".minimum(\"", by simp, rest, heq⟩
        | maximum => exact Or.inr ⟨".maximum(\"", by simp, rest, heq⟩

/-- No column function is read if none of the four methods opens the text. -/
theorem columnCall?_eq_none {cs : List Char}
    (h : ∀ function : ColumnFunction, call? function.method cs = none) : columnCall? cs = none := by
  unfold columnCall?
  rw [List.findSome?_eq_none_iff]
  intro function _
  rw [h function]
  rfl

/-- The calls of two functions of a column begin differently. -/
theorem diverges_of_ne : ∀ f g : ColumnFunction, f ≠ g →
    [("." ++ g.method ++ "(\"")].all (diverges ("." ++ f.method ++ "(\"")) = true := by
  intro f g
  cases f <;> cases g <;> decide

theorem method_ne_empty (f : ColumnFunction) : "." ++ f.method ++ "(\"" ≠ "" := by
  cases f <;> decide

/-- The call of a column function is read back with its column. -/
theorem columnCall?_column (function : ColumnFunction) (name : String) (tail : List Char) :
    columnCall? (("." ++ (Aggregate.column function name).call).toList ++ tail) =
      some (.scalar (.column function name), tail) := by
  have hread : call? function.method (("." ++ (Aggregate.column function name).call).toList ++ tail) =
      some (name, tail) := by
    rw [call_column_eq, call?_call]
  -- the functions are tried in turn, and those before the right one fail at its name
  have hother : ∀ f, f ≠ function →
      call? f.method (("." ++ (Aggregate.column function name).call).toList ++ tail) = none :=
    fun f hf => call?_eq_none (method_ne_empty f) (diverges_of_ne f function hf) (opens_column function name tail)
  generalize ("." ++ (Aggregate.column function name).call).toList ++ tail = cs at hread hother ⊢
  unfold columnCall? columnFunctions
  cases function <;> simp [hread, hother]

/-- **The form of an answer is read back.** -/
theorem readShape_calls {tail : List Char} (h : Ends tail) (shape : Shape) :
    readShape (shape.calls.toList ++ tail) = (shape, tail) := by
  cases shape with
  | rows order limit =>
    -- what stands at the front of a listing is known, and starts with the call of no reduction
    have hrows := opens_rows h order limit
    have hcolumn : columnCall? ((clause "order" order).toList ++ ((limitClause limit).toList ++ tail)) = none := by
      refine columnCall?_eq_none fun function => call?_eq_none (method_ne_empty function) ?_ hrows
      cases function <;> decide
    have hcount : after? ".count" ((clause "order" order).toList ++ ((limitClause limit).toList ++ tail)) = none :=
      after?_eq_none (by decide) (by decide) hrows
    have horder : readClause "order" ((clause "order" order).toList ++ ((limitClause limit).toList ++ tail)) =
        (order, (limitClause limit).toList ++ tail) :=
      readClause_clause fun _ => call?_eq_none (by decide) (by decide) (opens_limitClause h limit)
    have hlimit : readLimit ((limitClause limit).toList ++ tail) = (limit, tail) :=
      readLimit_limitClause fun _ => after?_eq_none (by decide) (by decide) (opens_of_ends h)
    simp only [readShape, Shape.calls, String.toList_append, List.append_assoc, hcolumn, hcount, horder, hlimit]
  | scalar aggregate =>
    cases aggregate with
    | count =>
      -- no parenthesis follows, so this is not the call on a column
      have hcolumn : columnCall? (".count".toList ++ tail) = none := by
        rcases h with rfl | rfl
        · decide
        · decide
      show readShape (".count".toList ++ tail) = (.scalar .count, tail)
      unfold readShape
      rw [hcolumn, after?_append]
    | column function name =>
      show readShape (("." ++ (Aggregate.column function name).call).toList ++ tail) = _
      unfold readShape
      rw [columnCall?_column]

/-! ## Queries -/

/-- An expression is read back to its query, and the rest of the script is left over. -/
theorem readExpression_expression {q : Query} (hq : ∀ c ∈ q.entity.toList, isAlphanumeric c = true)
    {tail : List Char} (h : Ends tail) : readExpression (q.expression.toList ++ tail) = some (q, tail) := by
  have hdot : ∀ c ∈ q.entity.toList, (c != '.') = true := by
    intro c hc
    rw [bne_iff_ne]
    rintro rfl
    exact absurd (hq _ hc) (by decide)
  have htext : q.expression.toList ++ tail = q.entity.toList ++
      (".all".toList ++ ((clause "where" q.filter).toList ++ (q.shape.calls.toList ++ tail))) := by
    simp only [Query.expression, String.toList_append, List.append_assoc]
  have hfilter : readClause "where" ((clause "where" q.filter).toList ++ (q.shape.calls.toList ++ tail)) =
      (q.filter, q.shape.calls.toList ++ tail) :=
    readClause_clause fun _ => call?_eq_none (by decide) (by decide) (opens_shape h q.shape)
  have hall : ∀ cs, (".all".toList ++ cs).takeWhile (· != '.') = [] := fun cs => rfl
  have hall' : ∀ cs, (".all".toList ++ cs).dropWhile (· != '.') = ".all".toList ++ cs := fun cs => rfl
  unfold readExpression
  rw [htext, List.takeWhile_append_of_pos hdot, List.dropWhile_append_of_pos hdot, hall, hall', after?_append,
    List.append_nil, String.ofList_toList]
  simp only [Option.map_some, hfilter, readShape_calls h]

theorem ends_printing (q : Query) : Ends (printing q).toList := by
  unfold printing
  split
  · exact Or.inl rfl
  · exact Or.inr rfl

/-- A script is decoded to the query it was written for. -/
theorem decode_script {q : Query} (h : ∀ c ∈ q.entity.toList, isAlphanumeric c = true) :
    decode (ofQuery q) = some q := by
  have hscript : (ofQuery q).toList =
      "require './config/environment'; puts ".toList ++ (q.expression.toList ++ (printing q).toList) := by
    have hprelude : (prelude ++ "; puts ").toList = "require './config/environment'; puts ".toList := by decide
    rw [← hprelude]
    simp only [ofQuery, printing, String.toList_append, List.append_assoc]
  unfold decode
  rw [hscript, after?_append, Option.bind_some, readExpression_expression h (ends_printing q), Option.bind_some,
    if_pos (beq_self_eq_true _)]

/-- No two queries share an expression. -/
theorem eq_of_expression_eq {q q' : Query} (h : ∀ c ∈ q.entity.toList, isAlphanumeric c = true)
    (h' : ∀ c ∈ q'.entity.toList, isAlphanumeric c = true) (heq : q.expression = q'.expression) : q = q' := by
  -- an expression is read back with nothing behind it too
  have hread := readExpression_expression h (Or.inl rfl)
  rw [heq, readExpression_expression h' (Or.inl rfl)] at hread
  exact (Prod.mk.inj (Option.some.inj hread)).1.symm

/-! ## Nothing is lost -/

/-- The texts of a query that stand in literals, in the order of the literals. -/
def queryTexts (q : Query) : List String :=
  q.filter.toList ++
    match q.shape with
    | .rows order _ => order.toList
    | .scalar .count => []
    | .scalar (.column _ name) => [name]

theorem texts_append (us vs : List Token) : texts (us ++ vs) = texts us ++ texts vs :=
  List.filterMap_append

theorem texts_codes (s : String) : texts (codes s) = [] := by
  unfold texts codes
  rw [List.filterMap_map]
  exact List.filterMap_eq_nil_iff.mpr fun c _ => rfl

/-- A call holds the one text that was put into it. -/
theorem texts_callTokens (method text : String) : texts (callTokens method text) = [text] := by
  have htext : texts [.text text.toList] = [text] := by
    show [String.ofList text.toList] = [text]
    rw [String.ofList_toList]
  unfold callTokens
  rw [texts_append, texts_append, texts_codes, texts_codes, htext]
  rfl

/-- A clause holds its text if it is given. -/
theorem texts_clauseTokens (method : String) (text : Option String) :
    texts (clauseTokens method text) = text.toList := by
  cases text with
  | none => rfl
  | some text => exact texts_callTokens method text

/-- The literals of a query, in order, are the texts of the query. -/
theorem texts_queryTokens (q : Query) : texts (queryTokens q) = queryTexts q := by
  obtain ⟨entity, filter, shape⟩ := q
  simp only [queryTokens, texts_append, texts_codes, texts_clauseTokens, queryTexts, List.nil_append]
  cases shape with
  | rows order limit =>
    simp only [shapeTokens, texts_append, texts_codes, texts_clauseTokens, List.append_nil]
  | scalar aggregate =>
    cases aggregate with
    | count => simp only [shapeTokens, texts_codes]
    | column function name => simp only [shapeTokens, texts_callTokens]

/-- **A script loses nothing of its query.** Whatever the texts of a query are, decoding its script gives the query
    back; queries that differ have different scripts and different expressions; and the scanner of the evaluator's
    language reads from the literals, character for character, the query's texts. -/
theorem decode_ofQuery {q : Query} (h : ∀ c ∈ q.entity.toList, isAlphanumeric c = true) :
    decode (ofQuery q) = some q ∧
      (∀ q' : Query, (∀ c ∈ q'.entity.toList, isAlphanumeric c = true) → q ≠ q' →
        ofQuery q ≠ ofQuery q' ∧ q.expression ≠ q'.expression) ∧
      ∃ tokens, scan (ofQuery q) = some ⟨.code, tokens⟩ ∧ texts tokens = queryTexts q := by
  refine ⟨decode_script h, ?_, queryTokens q, scan_ofQuery h, texts_queryTokens q⟩
  intro q' h' hne
  refine ⟨fun heq => hne ?_, fun heq => hne (eq_of_expression_eq h h' heq)⟩
  have hread := decode_script h
  rw [heq, decode_script h'] at hread
  exact (Option.some.inj hread).symm

/-- A query whose filter looks like the clauses that follow it. -/
def mimicking : Query :=
  ⟨"Post", some "\").order(\"id\").limit(5)", .rows (some "\\\"#\x7b") (some 18446744073709551615)⟩

/-- A query whose clauses look the same when nobody minds the ends of literals. -/
def mimicked : Query :=
  ⟨"Post", some "", .rows (some "id") (some 5)⟩

/-- A filter that spells out an order and a limit is not mistaken for a query that has them. -/
theorem decode_mimicking :
    'P' ∈ mimicking.entity.toList ∧ (∀ c ∈ mimicking.entity.toList, isAlphanumeric c = true) ∧
      decode (ofQuery mimicking) = some mimicking ∧
      (ofQuery mimicking ≠ ofQuery mimicked ∧ mimicking.expression ≠ mimicked.expression) ∧
      ∃ tokens, scan (ofQuery mimicking) = some ⟨.code, tokens⟩ ∧ texts tokens = queryTexts mimicking := by
  have hentity : ∀ c ∈ mimicking.entity.toList, isAlphanumeric c = true :=
    List.all_eq_true.mp (by decide)
  have hentity' : ∀ c ∈ mimicked.entity.toList, isAlphanumeric c = true := hentity
  obtain ⟨hdecode, hdistinct, hscan⟩ := decode_ofQuery hentity
  exact ⟨by decide, hentity, hdecode, hdistinct mimicked hentity' (by decide), hscan⟩

end RecordGate.Script
