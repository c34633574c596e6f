import RecordGate.Proofs.Fragment.Aggregate
import RecordGate.Proofs.Fragment.Context
import RecordGate.Proofs.Script.Sanitized

/-!
# `RecordGate.Proofs.Query.Recompilation` — one value is compiled to itself

The expression of a query for one value ends with the call that reduces the records. This call is itself a statement, and
it asks for the reduction that it was written for (`aggregate?_call`). It is also safe whenever the column is, since the
quotation marks around a column keep its words apart from the rest (`isSafe_call`). So with its call as the statement,
such a query is compiled to itself again, whatever else is asked for (`recompiles_of_compile`).
-/

namespace RecordGate

open Text Fragment

namespace Fragment

/-! ## Columns as they are written -/

theorem isNamePart_or_dot_of_isColumnName {cs : List Char} (h : IsColumnName cs) :
    ∀ c ∈ cs, isNamePart c = true ∨ c = '.' := by
  intro c hc
  rcases h with h | ⟨table, column, rfl, htable, hcolumn⟩
  · exact Or.inl (isNamePart_of_isIdentifier h c hc)
  · rcases List.mem_append.mp hc with hc | hc
    · exact Or.inl (isNamePart_of_isIdentifier htable c hc)
    · rcases List.mem_cons.mp hc with hdot | hc
      · exact Or.inr hdot
      · exact Or.inl (isNamePart_of_isIdentifier hcolumn c hc)

/-- Nothing in a column name needs an escape. -/
theorem escaped_of_isColumnChar {c : Char} (h : isNamePart c = true ∨ c = '.') : escaped c = [c] := by
  have hplain : (c == '"' || c == '#' || c == '\\') = false := by
    rw [Bool.eq_false_iff]
    intro hc
    simp only [Bool.or_eq_true, beq_iff_eq] at hc
    rcases hc with (rfl | rfl) | rfl
    · exact absurd h (by decide)
    · exact absurd h (by decide)
    · exact absurd h (by decide)
  unfold escaped
  rw [hplain]
  rfl

/-- Nothing in a column has to be escaped. -/
theorem flatMap_escaped_of_isColumnName {cs : List Char} (h : IsColumnName cs) : cs.flatMap escaped = cs := by
  have hmap : cs.map escaped = cs.map fun c => [c] :=
    List.map_congr_left fun c hc => escaped_of_isColumnChar (isNamePart_or_dot_of_isColumnName h c hc)
  calc cs.flatMap escaped = (cs.map fun c => [c]).flatten := by rw [List.flatMap_def, hmap]
    _ = cs := List.flatMap_singleton' cs

/-! ## Calls as statements -/

/-- A reduction whose column, if it has one, is named as columns are. -/
def Aggregate.IsNamed : Aggregate → Prop
  | .count => True
  | .column _ name => IsColumnName name.toList

/-- The call of a column function: its method, and the name in quotes and parentheses. -/
theorem call_column_toList (function : ColumnFunction) {name : String} (h : IsColumnName name.toList) :
    (Aggregate.column function name).call.toList =
      function.method.toList ++ '(' :: (('"' :: (name.toList ++ ['"'])) ++ [')']) := by
  simp only [Aggregate.call, String.toList_append, Script.literal_toList, flatMap_escaped_of_isColumnName h]
  simp

/-- A rendered method is its function's method in exact letters, hence in any case. -/
theorem calls_method (function : ColumnFunction) : Calls function.method.toList function := by
  cases function with
  | count => exact ⟨_, .count, by decide⟩
  | sum => exact ⟨_, .sum, by decide⟩
  | average => exact ⟨_, .average, by decide⟩
  | minimum => exact ⟨_, .minimum, by decide⟩
  | maximum => exact ⟨_, .maximum, by decide⟩

theorem mem_quoted {cs : List Char} (h : IsColumnName cs) {c : Char} (hc : c ∈ '"' :: (cs ++ ['"'])) :
    isNamePart c = true ∨ c = '.' ∨ c = '"' := by
  rcases List.mem_cons.mp hc with hquote | hc
  · exact Or.inr (Or.inr hquote)
  · rcases List.mem_append.mp hc with hc | hc
    · exact (isNamePart_or_dot_of_isColumnName h c hc).imp id Or.inl
    · exact Or.inr (Or.inr (List.mem_singleton.mp hc))

theorem not_isBlank_of_mem_quoted {cs : List Char} (h : IsColumnName cs) :
    ∀ c ∈ '"' :: (cs ++ ['"']), isBlank c = false := by
  intro c hc
  rcases mem_quoted h hc with hpart | rfl | rfl
  · exact not_isBlank_of_isWord (isWord_of_isNamePart hpart)
  · decide
  · decide

/-- There is no white space in a call. -/
theorem not_isBlank_of_mem_call (function : ColumnFunction) {name : String} (h : IsColumnName name.toList) :
    ∀ c ∈ (Aggregate.column function name).call.toList, isBlank c = false := by
  intro c hc
  rw [call_column_toList function h] at hc
  rcases List.mem_append.mp hc with hc | hc
  · exact not_isBlank_of_isWord (isWord_of_isLetter (isLetter_of_calls (calls_method function) c hc))
  · rcases List.mem_cons.mp hc with rfl | hc
    · decide
    · rcases List.mem_append.mp hc with hc | hc
      · exact not_isBlank_of_mem_quoted h c hc
      · rw [List.mem_singleton.mp hc]
        decide

/-- The quotes that rendering puts around a column are taken off again. -/
theorem applied?_quoted (function : ColumnFunction) {name : String} (h : IsColumnName name.toList) :
    applied? function ('"' :: (name.toList ++ ['"'])) = some (.column function name) := by
  have hcolumn : column? ('"' :: (name.toList ++ ['"'])) = some name :=
    column?_eq_some_iff.mpr ⟨name.toList, .double, h, String.ofList_toList.symm⟩
  exact applied?_eq_some_iff.mpr (Or.inr ⟨name, hcolumn, rfl⟩)

/-- **A call asks for the reduction that it was written for.** -/
theorem aggregate?_call {aggregate : Aggregate} (h : aggregate.IsNamed) :
    aggregate? aggregate.call = some aggregate := by
  cases aggregate with
  | count => decide +kernel
  | column function name =>
    have hname : IsColumnName name.toList := h
    have hflat : ∀ c ∈ '"' :: (name.toList ++ ['"']), c ≠ '(' ∧ c ≠ ')' := by
      intro c hc
      have hmem := mem_quoted hname hc
      constructor
      · rintro rfl
        exact absurd hmem (by decide)
      · rintro rfl
        exact absurd hmem (by decide)
    have hargument : argument? ('(' :: (('"' :: (name.toList ++ ['"'])) ++ [')'])) =
        some ('"' :: (name.toList ++ ['"'])) :=
      argument?_eq_some_iff.mpr (Or.inr ⟨_, rfl, hflat, (trim_eq_self (not_isBlank_of_mem_quoted hname)).symm⟩)
    refine aggregate?_eq_some_iff.mpr ⟨function.method.toList, [], _, function, _, ?_, calls_method function, ?_,
      hargument, applied?_quoted function hname⟩
    · rw [trim_eq_self (not_isBlank_of_mem_call function hname), call_column_toList function hname]
      rfl
    · exact fun c hc => absurd hc List.not_mem_nil

/-- **A call is safe if its column is.** -/
theorem isSafe_call (function : ColumnFunction) {name : String} (h : IsColumnName name.toList)
    (hname : isSafe name = true) : isSafe (Aggregate.column function name).call = true := by
  have hcall : (Aggregate.column function name).call = (function.method ++ "(\"") ++ (name ++ "\")") := by
    refine String.toList_injective ?_
    rw [call_column_toList function h]
    simp
  -- the column ends before the quotation mark, and the method before the parenthesis
  have hback : isSafe (name ++ "\")") = true := by
    refine isSafe_append ⟨Or.inr (by decide), ?_, ?_, ?_⟩ hname (by decide +kernel)
    · exact fun _ => by decide
    · exact fun _ => by decide
    · exact fun _ => by decide
  have hfront : isSafe (function.method ++ "(\"") = true := by
    cases function <;> decide +kernel
  rw [hcall]
  refine isSafe_append ⟨Or.inl ?_, ?_, ?_, ?_⟩ hfront hback
  · cases function <;> decide
  · cases function <;> exact fun h => absurd h (by decide)
  · cases function <;> exact fun h => absurd h (by decide)
  · cases function <;> exact fun h => absurd h (by decide)

/-- A statement that asks for a reduction is not blank. -/
theorem isBlankText_of_aggregate? {s : String} {aggregate : Aggregate} (h : aggregate? s = some aggregate) :
    isBlankText s = false := by
  obtain ⟨name, blanks, rest, function, argument, hs, ⟨w, hw, hname⟩, -⟩ := aggregate?_eq_some_iff.mp h
  rw [Bool.eq_false_iff]
  intro hblank
  rw [isBlankText_iff.mp hblank] at hs
  -- nothing has no name in it
  rw [(List.append_eq_nil_iff.mp hs.symm).1] at hname
  cases hw with
  | count | sum | average | avg | minimum | min | maximum | max => exact absurd hname (by decide)

end Fragment

/-! ## The same query again -/

/-- A text that was kept for not being blank is kept again. -/
theorem nonBlank?_nonBlank? (s : Option String) : nonBlank? (nonBlank? s) = nonBlank? s := by
  cases hs : nonBlank? s with
  | none => rfl
  | some t => exact nonBlank?_eq_some_iff.mpr ⟨rfl, (nonBlank?_eq_some_iff.mp hs).2⟩

/-- **A query for one value is compiled to itself** from the call at the end of its expression. -/
structure Recompiles (q : Query) (aggregate : Aggregate) : Prop where
  /-- The expression ends with a dot and the call. -/
  expression : q.expression = q.entity ++ ".all" ++ clause "where" q.filter ++ "." ++ aggregate.call
  /-- As a statement the call asks for the same reduction. -/
  reads : Fragment.aggregate? aggregate.call = some aggregate
  /-- It is safe. -/
  safe : isSafe aggregate.call = true
  /-- With the same filter, and whatever else is asked for, it is compiled to the same query. -/
  compiles : ∀ order limit countOnly,
    Criteria.compile { filter := q.filter, order, limit, aggregate := some aggregate.call, countOnly } q.entity = .ok q

section

variable {r : Request} {q : Query} {aggregate : Aggregate}

/-- The column of a compiled aggregate is a column name. -/
theorem isNamed_of_compile (h : r.compile = .ok q) (hs : q.shape = .scalar aggregate) : aggregate.IsNamed := by
  cases aggregate with
  | count => trivial
  | column function name => exact (column_sanitized h hs).1

/-- The call that is rendered is a safe fragment itself. -/
theorem isSafe_call_of_compile (h : r.compile = .ok q) (hs : q.shape = .scalar aggregate) :
    isSafe aggregate.call = true := by
  cases aggregate with
  | count => decide +kernel
  | column function name =>
    obtain ⟨hname, hsafe, -⟩ := column_sanitized h hs
    exact isSafe_call function hname hsafe

/-- **Every compiled query for one value compiles to itself again.** -/
theorem recompiles_of_compile (h : r.compile = .ok q) (hs : q.shape = .scalar aggregate) :
    Recompiles q aggregate where
  expression := by
    simp only [Query.expression, hs, Shape.calls, String.append_assoc]
  reads := aggregate?_call (isNamed_of_compile h hs)
  safe := isSafe_call_of_compile h hs
  compiles := by
    intro order limit countOnly
    have hreads := aggregate?_call (isNamed_of_compile h hs)
    have hgiven : nonBlank? (some aggregate.call) = some aggregate.call :=
      nonBlank?_eq_some_iff.mpr ⟨rfl, isBlankText_of_aggregate? hreads⟩
    obtain ⟨hfilter, hsafe⟩ := filter_of_compile h
    refine criteria_compile_eq_ok_iff.mpr ⟨rfl, filter?_eq_ok_iff.mpr ⟨?_, hsafe⟩, some aggregate,
      aggregate?_eq_ok_iff.mpr (Or.inr ⟨_, aggregate, hgiven, isSafe_call_of_compile h hs, hreads, rfl⟩), hs⟩
    -- the filter is not blank any more
    rw [hfilter, nonBlank?_nonBlank?]

end

/-- A request for a minimum, with a filter of words that contain refused ones, and with much that is ignored. -/
def paddedRequest : Request where
  collection := some " blog_posts "
  filter := some "deleted = 0"
  order := some "id"
  limit := some 5
  aggregate := some "\tMIN( :Posts.updated_at )"
  countOnly := some true

/-- An aggregate in capitals, with blanks and a colon around its column, compiles to a call that compiles again. -/
theorem recompiles_paddedRequest :
    paddedRequest.compile = .ok ⟨"BlogPost", some "deleted = 0", .scalar (.column .minimum "Posts.updated_at")⟩ ∧
      Recompiles ⟨"BlogPost", some "deleted = 0", .scalar (.column .minimum "Posts.updated_at")⟩
        (.column .minimum "Posts.updated_at") :=
  ⟨by rfl, recompiles_of_compile (r := paddedRequest) (by rfl) rfl⟩

end RecordGate
