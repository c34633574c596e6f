import RecordGate.Proofs.Name.Constant
import RecordGate.Query.Compile

/-!
# `RecordGate.Proofs.Query.Compile` — when a request becomes a query, and which one

One lemma for each step of the compilation says exactly when the step succeeds and with what: `resolve_eq_ok_iff`
for the name, `filter?_eq_ok_iff` and `aggregate?_eq_ok_iff` for the fragments, `compile_eq_ok_iff` for all of it.
Nothing that follows unfolds the compilation again.
-/

namespace RecordGate

open Text Fragment Name

/-! ## The steps -/

/-- **When a name is resolved**: when it is present and, trimmed, a collection name. -/
theorem resolve_eq_ok_iff {subject : Subject} {name : Option String} {entity : String} :
    resolve subject name = .ok entity ↔
      ∃ n, name = some n ∧ isCollection (trim n.toList) = true ∧ entity = entityName (trimmed n) := by
  unfold resolve
  split
  · rename_i hnone
    constructor
    · intro h
      exact absurd h (by simp)
    · -- nothing is left of a blank name, and nothing is no collection name
      rintro ⟨n, hn, hcollection, -⟩
      rw [nonBlank?_eq_none_iff.mp hnone n hn] at hcollection
      exact absurd hcollection (by simp [isCollection])
  · rename_i n hsome
    obtain ⟨rfl, -⟩ := nonBlank?_eq_some_iff.mp hsome
    simp only [isCollectionName, trimmed_toList]
    constructor
    · intro h
      split at h
      · rename_i hcollection
        exact ⟨n, rfl, hcollection, (Except.ok.inj h).symm⟩
      · exact absurd h (by simp)
    · rintro ⟨m, hm, hcollection, rfl⟩
      obtain rfl := Option.some.inj hm
      rw [if_pos hcollection]

/-- **When a name is not resolved, and why**: it is absent or blank, or what is left of it is no collection name. -/
theorem resolve_eq_error_iff {subject : Subject} {name : Option String} {refusal : Refusal} :
    resolve subject name = .error refusal ↔
      (nonBlank? name = none ∧ refusal = .missingName subject) ∨
        ∃ n, nonBlank? name = some n ∧ isCollection (trim n.toList) = false ∧
          refusal = .invalidName subject (trimmed n) := by
  unfold resolve
  cases hname : nonBlank? name with
  | none =>
    simp only [Except.error.injEq, true_and, reduceCtorEq, false_and, exists_false, or_false]
    exact eq_comm
  | some n =>
    simp only [isCollectionName, trimmed_toList, reduceCtorEq, false_and, Option.some.injEq, false_or, exists_eq_left']
    cases hcollection : isCollection (trim n.toList) with
    | true => simp
    | false =>
      simp only [Bool.false_eq_true, if_false, Except.error.injEq, true_and]
      exact eq_comm

/-- **White space around a name makes no difference to what it resolves to**, nor to the reason if it does not. -/
theorem resolve_append_append (subject : Subject) {a n b : String} (ha : isBlankText a = true)
    (hb : isBlankText b = true) : resolve subject (some (a ++ n ++ b)) = resolve subject (some n) := by
  have htrim : trim (a ++ n ++ b).toList = trim n.toList := by
    rw [String.toList_append, String.toList_append]
    exact trim_append_append (List.all_eq_true.mp ha) (List.all_eq_true.mp hb)
  have htrimmed : trimmed (a ++ n ++ b) = trimmed n := by
    unfold trimmed
    rw [htrim]
  have hblank : isBlankText (a ++ n ++ b) = isBlankText n := by
    rw [Bool.eq_iff_iff, isBlankText_iff, isBlankText_iff, htrim]
  unfold resolve nonBlank?
  cases hn : isBlankText n with
  | true => simp only [Option.filter_some, hblank, hn, Bool.not_true, Bool.false_eq_true, if_false]
  | false => simp only [Option.filter_some, hblank, hn, Bool.not_false, if_true, htrimmed]

/-- **When a filter passes**: when it is blank, or safe and then unchanged. -/
theorem filter?_eq_ok_iff {c : Criteria} {filter : Option String} :
    c.filter? = .ok filter ↔ filter = nonBlank? c.filter ∧ ∀ t, filter = some t → isSafe t = true := by
  unfold Criteria.filter?
  split
  · rename_i hnone
    rw [hnone]
    constructor
    · intro h
      rw [← Except.ok.inj h]
      exact ⟨rfl, fun t ht => absurd ht (by simp)⟩
    · rintro ⟨rfl, -⟩
      rfl
  · rename_i t hsome
    rw [hsome]
    constructor
    · intro h
      split at h
      · rename_i hsafe
        rw [← Except.ok.inj h]
        exact ⟨rfl, fun u hu => Option.some.inj hu ▸ hsafe⟩
      · exact absurd h (by simp)
    · rintro ⟨rfl, hsafe⟩
      rw [if_pos (hsafe t rfl)]

/-- **When an aggregate passes**: without a statement only the wish for a count decides; a statement has to be
    safe and to ask for a known reduction. -/
theorem aggregate?_eq_ok_iff {c : Criteria} {aggregate : Option Aggregate} :
    c.aggregate? = .ok aggregate ↔
      (nonBlank? c.aggregate = none ∧ aggregate = if c.countOnly.getD false then some .count else none) ∨
      ∃ statement a, nonBlank? c.aggregate = some statement ∧ isSafe statement = true ∧
        Fragment.aggregate? statement = some a ∧ aggregate = some a := by
  unfold Criteria.aggregate?
  split
  · rename_i hnone
    simp only [hnone, Except.ok.injEq, true_and, reduceCtorEq, false_and, exists_false, or_false]
    exact eq_comm
  · rename_i statement hsome
    simp only [hsome, reduceCtorEq, false_and, Option.some.injEq, false_or]
    constructor
    · intro h
      split at h
      · rename_i hsafe
        split at h
        · rename_i a ha
          exact ⟨statement, a, rfl, hsafe, ha, (Except.ok.inj h).symm⟩
        · exact absurd h (by simp)
      · exact absurd h (by simp)
    · rintro ⟨s, a, rfl, hsafe, ha, rfl⟩
      rw [if_pos hsafe, ha]

/-! ## The whole -/

/-- The criteria compile exactly if their filter and their aggregate do; a scalar wish takes the listing's place. -/
theorem criteria_compile_eq_ok_iff {c : Criteria} {entity : String} {q : Query} :
    c.compile entity = .ok q ↔ q.entity = entity ∧ c.filter? = .ok q.filter ∧
      ∃ aggregate, c.aggregate? = .ok aggregate ∧ q.shape = (aggregate.map .scalar).getD c.listing := by
  unfold Criteria.compile
  cases hf : c.filter? with
  | error refusal => simp
  | ok filter =>
    cases ha : c.aggregate? with
    | error refusal => simp
    | ok aggregate =>
      obtain ⟨e, f, s⟩ := q
      simp only [Except.ok.injEq, Query.mk.injEq, exists_eq_left']
      constructor
      · rintro ⟨rfl, rfl, rfl⟩
        exact ⟨rfl, rfl, rfl⟩
      · rintro ⟨rfl, rfl, rfl⟩
        exact ⟨rfl, rfl, rfl⟩

/-- **When a request becomes a query, and which one.** -/
theorem compile_eq_ok_iff {r : Request} {q : Query} :
    r.compile = .ok q ↔ resolve .model r.collection = .ok q.entity ∧ r.filter? = .ok q.filter ∧
      ∃ aggregate, r.aggregate? = .ok aggregate ∧ q.shape = (aggregate.map .scalar).getD r.listing := by
  unfold Request.compile Request.entity
  cases hr : resolve .model r.collection with
  | error refusal => simp
  | ok entity =>
    simp only [criteria_compile_eq_ok_iff, Except.ok.injEq]
    constructor
    · rintro ⟨rfl, h⟩
      exact ⟨rfl, h⟩
    · rintro ⟨rfl, h⟩
      exact ⟨rfl, h⟩

/-! ## What a compiled query is made of -/

section Compiled

variable {r : Request} {q : Query}

/-- The entity of a compiled query is named by a constant. -/
theorem isConstant_of_compile (h : r.compile = .ok q) : isConstant q.entity.toList = true := by
  obtain ⟨n, -, hn, hentity⟩ := resolve_eq_ok_iff.mp (compile_eq_ok_iff.mp h).1
  rw [hentity, entityName, String.toList_ofList, trimmed_toList]
  exact isConstant_entity hn

/-- The filter of a compiled query is the request's, unless blank, and it is safe. -/
theorem filter_of_compile (h : r.compile = .ok q) :
    q.filter = nonBlank? r.filter ∧ ∀ t, q.filter = some t → isSafe t = true :=
  filter?_eq_ok_iff.mp (compile_eq_ok_iff.mp h).2.1

/-- A listing of records has the order that can be read and the limit, no less than zero. -/
theorem rows_of_compile (h : r.compile = .ok q) {order : Option String} {limit : Option Nat}
    (hs : q.shape = .rows order limit) :
    order = (nonBlank? r.order).bind ordering? ∧ limit = r.limit.map fun n => n.toInt.toNat := by
  obtain ⟨-, -, aggregate, -, hshape⟩ := compile_eq_ok_iff.mp h
  rw [hs] at hshape
  cases aggregate with
  | none =>
    injection hshape with horder hlimit
    exact ⟨horder, hlimit⟩
  | some a => exact absurd hshape (by simp)

/-- A limit fits into 63 bits. -/
theorem limit_le_of_compile (h : r.compile = .ok q) {order : Option String} {n : Nat}
    (hs : q.shape = .rows order (some n)) : n ≤ 0x7FFFFFFFFFFFFFFF := by
  obtain ⟨-, hlimit⟩ := rows_of_compile h hs
  obtain ⟨l, -, hn⟩ := Option.map_eq_some_iff.mp hlimit.symm
  have hlt := Int64.toInt_lt l
  omega

/-- A query for a scalar comes of the request's aggregate. -/
theorem scalar_of_compile (h : r.compile = .ok q) {a : Aggregate} (hs : q.shape = .scalar a) :
    r.aggregate? = .ok (some a) := by
  obtain ⟨-, -, aggregate, hagg, hshape⟩ := compile_eq_ok_iff.mp h
  rw [hs] at hshape
  cases aggregate with
  | none => exact absurd hshape (by simp [Criteria.listing])
  | some b =>
    injection hshape with hab
    rw [hagg, hab]

end Compiled

end RecordGate
