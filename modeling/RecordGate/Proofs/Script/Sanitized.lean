import RecordGate.Proofs.Fragment.Aggregate
import RecordGate.Proofs.Fragment.Ordering
import RecordGate.Proofs.Query.Compile
import RecordGate.Proofs.Script.Scan

/-!
# `RecordGate.Proofs.Script.Sanitized` — compiled queries carry sanitized fragments only

Each text of a compiled query comes from the request and has passed the check for its kind: the filter is safe,
the ordering is one, and a column is named by identifiers inside a safe statement (`Sanitized`). None of these
texts has a backslash or a NUL, each for a reason of its own, so the backslashes of a script are those that the
literals put before quotation marks and hashes (`sanitized_of_compile`).
-/

namespace RecordGate

open Text Fragment Name

/-! ## Backslashes and NULs in a script -/

namespace Script

/-- There is no NUL, and each backslash stands right before a quotation mark or a hash. -/
structure Harmless (cs : List Char) : Prop where
  nul : '\x00' ∉ cs
  backslash : ∀ i, cs[i]? = some '\\' → cs[i + 1]? = some '"' ∨ cs[i + 1]? = some '#'

theorem Harmless.append {cs ds : List Char} (hcs : Harmless cs) (hds : Harmless ds) : Harmless (cs ++ ds) where
  nul := by
    intro hmem
    rcases List.mem_append.mp hmem with hmem | hmem
    · exact hcs.nul hmem
    · exact hds.nul hmem
  backslash := by
    intro i hi
    by_cases hlt : i < cs.length
    · -- the character behind a backslash of `cs` is in `cs` as well
      rw [List.getElem?_append_left hlt] at hi
      have hnext := hcs.backslash i hi
      have hlt' : i + 1 < cs.length := by
        rcases hnext with h | h
        · exact (List.getElem?_eq_some_iff.mp h).1
        · exact (List.getElem?_eq_some_iff.mp h).1
      rw [List.getElem?_append_left hlt']
      exact hnext
    · -- behind `cs` the places are those of `ds`, so a backslash at the end of `cs` is not met here
      rw [List.getElem?_append_right (by omega)] at hi ⊢
      rw [show i + 1 - cs.length = i - cs.length + 1 by omega]
      exact hds.backslash (i - cs.length) hi

/-- A text without backslashes and zero characters is harmless. -/
theorem harmless_of_not_mem {cs : List Char} (h : '\\' ∉ cs ∧ '\x00' ∉ cs) : Harmless cs where
  nul := h.2
  backslash := fun _ hi => absurd (List.mem_of_getElem? hi) h.1

theorem harmless_of_all {s : String} (h : s.toList.all (fun c => c != '\\' && c != '\x00') = true) :
    Harmless s.toList := by
  refine harmless_of_not_mem ⟨?_, ?_⟩
  · intro hmem
    exact absurd (List.all_eq_true.mp h _ hmem) (by decide)
  · intro hmem
    exact absurd (List.all_eq_true.mp h _ hmem) (by decide)

/-- The escape of a character other than these two is harmless: its backslash stands before a quote or a hash. -/
theorem harmless_escaped {c : Char} (hslash : c ≠ '\\') (hnul : c ≠ '\x00') : Harmless (escaped c) := by
  unfold escaped
  split
  · rename_i hc
    simp only [Bool.or_eq_true, beq_iff_eq] at hc
    rcases hc with (rfl | rfl) | rfl
    · refine ⟨by decide, fun i hi => ?_⟩
      match i with
      | 0 => exact Or.inl rfl
      | i + 1 => exact absurd (List.mem_of_getElem? (show ['"'][i]? = some '\\' from hi)) (by decide)
    · refine ⟨by decide, fun i hi => ?_⟩
      match i with
      | 0 => exact Or.inr rfl
      | i + 1 => exact absurd (List.mem_of_getElem? (show ['#'][i]? = some '\\' from hi)) (by decide)
    · exact absurd rfl hslash
  · refine harmless_of_not_mem ⟨?_, ?_⟩
    · exact fun hmem => hslash (List.mem_singleton.mp hmem).symm
    · exact fun hmem => hnul (List.mem_singleton.mp hmem).symm

/-- The escaped form of a text without either character is harmless. -/
theorem harmless_flatMap_escaped {cs : List Char} (h : '\\' ∉ cs ∧ '\x00' ∉ cs) :
    Harmless (cs.flatMap escaped) := by
  induction cs with
  | nil => exact harmless_of_not_mem h
  | cons c cs ih =>
    obtain ⟨hslash, hnul⟩ := h
    rw [List.mem_cons, not_or] at hslash hnul
    rw [List.flatMap_cons]
    exact (harmless_escaped (Ne.symm hslash.1) (Ne.symm hnul.1)).append (ih ⟨hslash.2, hnul.2⟩)

/-- **A literal is harmless** when its text has no backslash and no NUL. -/
theorem harmless_literal {s : String} (h : '\\' ∉ s.toList ∧ '\x00' ∉ s.toList) : Harmless (literal s).toList := by
  have hquote : Harmless ['"'] := harmless_of_not_mem (by decide)
  rw [literal_toList]
  exact hquote.append ((harmless_flatMap_escaped h).append hquote)

/-- A clause is harmless if its method and its text are free of both characters. -/
theorem harmless_clause {method : String} {text : Option String}
    (hm : ("." ++ method ++ "(").toList.all (fun c => c != '\\' && c != '\x00') = true)
    (h : ∀ t, text = some t → '\\' ∉ t.toList ∧ '\x00' ∉ t.toList) : Harmless (clause method text).toList := by
  cases text with
  | none =>
    show Harmless "".toList
    exact harmless_of_not_mem (by decide)
  | some t =>
    show Harmless ("." ++ method ++ "(" ++ literal t ++ ")").toList
    rw [String.toList_append, String.toList_append]
    exact ((harmless_of_all hm).append (harmless_literal (h t rfl))).append (harmless_of_all (by decide))

theorem harmless_of_isAlphanumeric {cs : List Char} (h : ∀ c ∈ cs, isAlphanumeric c = true) : Harmless cs := by
  refine harmless_of_not_mem ⟨?_, ?_⟩
  · intro hmem
    exact absurd (h _ hmem) (by decide)
  · intro hmem
    exact absurd (h _ hmem) (by decide)

theorem harmless_limitClause (limit : Option Nat) : Harmless (limitClause limit).toList := by
  cases limit with
  | none => exact harmless_of_not_mem (by decide)
  | some n =>
    have hdigits : Harmless (Nat.repr n).toList := harmless_of_isAlphanumeric fun c hc =>
      isAlphanumeric_iff.mpr (Or.inr (Or.inr (isAsciiDigit_of_mem_repr hc)))
    simp only [limitClause, String.toList_append]
    exact ((harmless_of_all (by decide)).append hdigits).append (harmless_of_all (by decide))

end Script

/-! ## Sanitized queries -/

/-- **What a query may carry** of the request that it answers. -/
structure Sanitized (r : Request) (q : Query) : Prop where
  /-- A filter is the request's, unchanged; it is not blank, and it is safe. -/
  filter : ∀ t, q.filter = some t →
    r.filter = some t ∧ (∃ c ∈ t.toList, isBlank c = false) ∧ isSafe t = true
  /-- An ordering is the request's, trimmed; something is left of it, and it has been accepted as one. -/
  order : ∀ o limit, q.shape = .rows (some o) limit →
    ∃ t, r.order = some t ∧ o = trimmed t ∧ o ≠ "" ∧ ordering? t = some o
  /-- A limit is there when the request has one. It is the request's, or zero instead of a negative one. -/
  limit : ∀ order limit, q.shape = .rows order limit →
    (limit = none ↔ r.limit = none) ∧
      ∀ n, r.limit = some n → ∃ m : Nat, limit = some m ∧ (m : Int) = max n.toInt 0 ∧ m ≤ 0x7FFFFFFFFFFFFFFF
  /-- A column has the name of one, which is a safe piece of the request's statement; that is safe too. -/
  column : ∀ function name, q.shape = .scalar (.column function name) →
    IsColumnName name.toList ∧ isSafe name = true ∧
      ∃ statement, r.aggregate = some statement ∧ name.toList <:+: statement.toList ∧ isSafe statement = true
  /-- The script has no NUL, and backslashes only before quotation marks and hashes. -/
  script : Script.Harmless (Script.ofQuery q).toList

section

variable {r : Request} {q : Query}

/-- A compiled filter is the request's own text, not blank and safe. -/
theorem filter_sanitized (h : r.compile = .ok q) {t : String} (ht : q.filter = some t) :
    r.filter = some t ∧ (∃ c ∈ t.toList, isBlank c = false) ∧ isSafe t = true := by
  obtain ⟨hfilter, hsafe⟩ := filter_of_compile h
  obtain ⟨hr, hblank⟩ := nonBlank?_eq_some_iff.mp (hfilter.symm.trans ht)
  exact ⟨hr, isBlankText_eq_false_iff.mp hblank, hsafe t ht⟩

/-- A compiled order is the trimmed order of the request, one that can be read. -/
theorem order_sanitized (h : r.compile = .ok q) {o : String} {limit : Option Nat}
    (hs : q.shape = .rows (some o) limit) :
    ∃ t, r.order = some t ∧ o = trimmed t ∧ o ≠ "" ∧ ordering? t = some o := by
  obtain ⟨horder, -⟩ := rows_of_compile h hs
  obtain ⟨t, ht, hord⟩ := Option.bind_eq_some_iff.mp horder.symm
  obtain ⟨hr, hblank⟩ := nonBlank?_eq_some_iff.mp ht
  obtain ⟨-, -, rfl⟩ := ordering?_eq_some_iff.mp hord
  exact ⟨t, hr, rfl, trimmed_ne_empty hblank, hord⟩

/-- A compiled limit is the request's, raised to zero and within 63 bits. -/
theorem limit_sanitized (h : r.compile = .ok q) {order : Option String} {limit : Option Nat}
    (hs : q.shape = .rows order limit) :
    (limit = none ↔ r.limit = none) ∧
      ∀ n, r.limit = some n → ∃ m : Nat, limit = some m ∧ (m : Int) = max n.toInt 0 ∧ m ≤ 0x7FFFFFFFFFFFFFFF := by
  obtain ⟨-, hlimit⟩ := rows_of_compile h hs
  refine ⟨by rw [hlimit, Option.map_eq_none_iff], ?_⟩
  intro n hn
  rw [hn] at hlimit
  refine ⟨n.toInt.toNat, hlimit, Int.toNat_eq_max n.toInt, ?_⟩
  rw [hlimit] at hs
  exact limit_le_of_compile h hs

/-- A compiled column is a column name that stands in the aggregate of the request, and both are safe. -/
theorem column_sanitized (h : r.compile = .ok q) {function : ColumnFunction} {name : String}
    (hs : q.shape = .scalar (.column function name)) :
    IsColumnName name.toList ∧ isSafe name = true ∧
      ∃ statement, r.aggregate = some statement ∧ name.toList <:+: statement.toList ∧ isSafe statement = true := by
  obtain ⟨-, hnone⟩ | ⟨statement, a, hst, hsafe, hagg, ha⟩ := aggregate?_eq_ok_iff.mp (scalar_of_compile h hs)
  · -- without a statement there is a count of all records at most, which has no column
    split at hnone
    · exact absurd hnone (by simp)
    · exact absurd hnone (by simp)
  · obtain rfl := Option.some.inj ha
    obtain ⟨hname, hpiece⟩ := isPiece_of_aggregate? hagg
    refine ⟨hname, isSafe_of_isPiece hpiece hsafe, statement, (nonBlank?_eq_some_iff.mp hst).1, ?_, hsafe⟩
    obtain ⟨a, b, heq, -, -⟩ := hpiece
    exact ⟨a, b, heq.symm⟩

/-- **The script of a compiled query is harmless**: none of its texts brings a backslash or a NUL. -/
theorem harmless_ofQuery (h : r.compile = .ok q) : Script.Harmless (Script.ofQuery q).toList := by
  have hentity : Script.Harmless q.entity.toList :=
    Script.harmless_of_isAlphanumeric (isAlphanumeric_of_isConstant (isConstant_of_compile h))
  have hfilter : Script.Harmless (clause "where" q.filter).toList :=
    Script.harmless_clause (by decide) fun t ht => not_mem_of_isSafe (filter_sanitized h ht).2.2
  -- an ordering and a column are harmless for reasons of their own: the characters of an ordering, and the safety
  -- of the statement around a column
  have hending : Script.Harmless (Script.ending q.shape).toList := by
    cases hs : q.shape with
    | rows order limit =>
      have horder : Script.Harmless (clause "order" order).toList := by
        refine Script.harmless_clause (by decide) fun o ho => ?_
        rw [ho] at hs
        obtain ⟨t, -, -, -, hord⟩ := order_sanitized h hs
        exact not_mem_of_ordering hord
      simp only [Script.ending, String.toList_append]
      exact (horder.append (Script.harmless_limitClause limit)).append (Script.harmless_of_all (by decide))
    | scalar aggregate =>
      cases aggregate with
      | count => exact Script.harmless_of_all (by decide)
      | column function name =>
        have hclause : Script.Harmless (clause function.method (some name)).toList := by
          refine Script.harmless_clause (by cases function <;> decide) fun t ht => ?_
          obtain rfl := Option.some.inj ht
          exact not_mem_of_isSafe (column_sanitized h hs).2.1
        show Script.Harmless ("." ++ (Aggregate.column function name).call).toList
        rw [Script.call_column_eq]
        exact hclause
  have hprelude : Script.Harmless (Script.prelude.toList ++ "; puts ".toList) :=
    (Script.harmless_of_all (by decide)).append (Script.harmless_of_all (by decide))
  have hall : Script.Harmless ".all".toList := Script.harmless_of_all (by decide)
  rw [Script.ofQuery_eq]
  simp only [String.toList_append]
  exact (((hprelude.append hentity).append hall).append hfilter).append hending

/-- **Every compiled query carries only sanitized fragments** of its request. -/
theorem sanitized_of_compile (h : r.compile = .ok q) : Sanitized r q where
  filter := fun _ ht => filter_sanitized h ht
  order := fun _ _ hs => order_sanitized h hs
  limit := fun _ _ hs => limit_sanitized h hs
  column := fun _ _ hs => column_sanitized h hs
  script := harmless_ofQuery h

end

/-- A request for a sum, with quotation marks in its filter and around its column. -/
def quotingRequest : Request where
  collection := some "users"
  filter := some "name = \"#1\""
  order := some "id; x"
  limit := some 5
  aggregate := some " SUM( 'posts.price' ) "

/-- The quotes and the hash of a filter, and the blanks around an aggregate, end in a sanitized script. -/
theorem sanitized_quotingRequest :
    quotingRequest.compile = .ok ⟨"User", some "name = \"#1\"", .scalar (.column .sum "posts.price")⟩ ∧
      Sanitized quotingRequest ⟨"User", some "name = \"#1\"", .scalar (.column .sum "posts.price")⟩ :=
  ⟨by rfl, sanitized_of_compile (by rfl)⟩

end RecordGate
