import RecordGate.Proofs.Query.Resolution

/-!
# `RecordGate.Proofs.Query.Refusal` — why a request is refused

Five things may be wrong with a request, any number of them at once. `Faulty` says what they are, each without a look
at the others. The checks run in a fixed order (`Refusal.rank`), so a request with a fault is refused for the first one
that it has, and a request without any becomes a query (`refusedForFirstFault`). Neither the ordering nor the limit
nor the wish for a count is a fault.

A check that passes rules out its own faults (`two_le_rank`, `rank_ne_two`, `rank_le_two`). From this the order of the
faults follows by arithmetic.
-/

namespace RecordGate

open Text Fragment Name

/-! ## Faults -/

/-- **What is wrong with a request**, given as the reason to refuse it. -/
inductive Faulty (r : Request) : Refusal → Prop where
  /-- No name is given, or nothing but white space. -/
  | missingName (h : ∀ n, r.collection = some n → ∀ c ∈ n.toList, isBlank c = true) : Faulty r (.missingName .model)
  /-- A name is given that is no collection name, whatever white space is around it. -/
  | invalidName {n : String} (hn : r.collection = some n) (h : ¬ IsCollectionText (trim n.toList)) :
      Faulty r (.invalidName .model (trimmed n))
  /-- A filter is given that contains a refused construct. -/
  | unsafeFilter {t : String} (ht : IsGiven r.filter t) (h : isSafe t = false) : Faulty r .unsafeFilter
  /-- An aggregate statement is given that contains a refused construct. -/
  | unsafeAggregate {t : String} (ht : IsGiven r.aggregate t) (h : isSafe t = false) : Faulty r .unsafeAggregate
  /-- An aggregate statement is given that cannot be read. -/
  | unsupportedAggregate {t : String} (ht : IsGiven r.aggregate t) (h : Fragment.aggregate? t = none) :
      Faulty r (.unsupportedAggregate (trimmed t))

/-- When a fault is looked for. -/
def Refusal.rank : Refusal → Nat
  | .missingName _ => 0
  | .invalidName _ _ => 1
  | .unsafeFilter => 2
  | .unsafeAggregate => 3
  | .unsupportedAggregate _ => 4

/-- **The first fault of a request decides**, and there is nothing else to decide. -/
structure RefusedForFirstFault (r : Request) : Prop where
  /-- The request is refused for the fault that is looked for before all others that it has. -/
  refused : ∀ refusal, r.compile = .error refusal ↔
    Faulty r refusal ∧ ∀ other, Faulty r other → refusal.rank ≤ other.rank
  /-- It becomes a query when it has no fault. -/
  compiled : (∃ q, r.compile = .ok q) ↔ ∀ refusal, ¬ Faulty r refusal
  /-- Another ordering, limit or wish for a count leads to the same refusal, if to any. -/
  indifferent : ∀ order limit countOnly refusal,
    Request.compile { r with order := order, limit := limit, countOnly := countOnly } = .error refusal ↔
      r.compile = .error refusal

/-- A request has at most one fault of each rank. -/
theorem Faulty.eq_of_rank_eq {r : Request} {a b : Refusal} (ha : Faulty r a) (hb : Faulty r b)
    (hrank : a.rank = b.rank) : a = b := by
  cases ha with
  | missingName =>
    cases hb with
    | missingName => rfl
    | _ => exact absurd hrank (by simp [Refusal.rank])
  | invalidName hn =>
    cases hb with
    | invalidName hm =>
      rw [hn] at hm
      rw [Option.some.inj hm]
    | _ => exact absurd hrank (by simp [Refusal.rank])
  | unsafeFilter =>
    cases hb with
    | unsafeFilter => rfl
    | _ => exact absurd hrank (by simp [Refusal.rank])
  | unsafeAggregate =>
    cases hb with
    | unsafeAggregate => rfl
    | _ => exact absurd hrank (by simp [Refusal.rank])
  | unsupportedAggregate ht =>
    cases hb with
    | unsupportedAggregate hu =>
      rw [ht.1] at hu
      rw [Option.some.inj hu.1]
    | _ => exact absurd hrank (by simp [Refusal.rank])

/-! ## The checks, one by one -/

/-- **When a filter does not pass, and why.** -/
theorem filter?_eq_error_iff {c : Criteria} {refusal : Refusal} :
    c.filter? = .error refusal ↔ refusal = .unsafeFilter ∧ ∃ t, nonBlank? c.filter = some t ∧ isSafe t = false := by
  unfold Criteria.filter?
  cases nonBlank? c.filter with
  | none => simp
  | some t =>
    cases hsafe : isSafe t with
    | true => simp [hsafe]
    | false => simpa [hsafe] using eq_comm

/-- **When an aggregate statement does not pass, and why.** -/
theorem aggregate?_eq_error_iff {c : Criteria} {refusal : Refusal} :
    c.aggregate? = .error refusal ↔ ∃ t, nonBlank? c.aggregate = some t ∧
      ((isSafe t = false ∧ refusal = .unsafeAggregate) ∨
        (isSafe t = true ∧ Fragment.aggregate? t = none ∧ refusal = .unsupportedAggregate (trimmed t))) := by
  unfold Criteria.aggregate?
  cases nonBlank? c.aggregate with
  | none => simp
  | some t =>
    cases hsafe : isSafe t with
    | false => simpa [hsafe] using eq_comm
    | true =>
      cases hread : Fragment.aggregate? t with
      | some a => simp [hsafe, hread]
      | none => simpa [hsafe, hread] using eq_comm

/-- **When a request does not become a query, and why**: the checks stop at the first that does not pass. -/
theorem compile_eq_error_iff {r : Request} {refusal : Refusal} :
    r.compile = .error refusal ↔ resolve .model r.collection = .error refusal ∨
      ∃ entity, resolve .model r.collection = .ok entity ∧
        (r.filter? = .error refusal ∨ ∃ filter, r.filter? = .ok filter ∧ r.aggregate? = .error refusal) := by
  unfold Request.compile Request.entity Criteria.compile
  cases resolve .model r.collection with
  | error e => simp
  | ok entity =>
    cases r.filter? with
    | error e => simp
    | ok filter =>
      cases r.aggregate? with
      | error e => simp
      | ok aggregate => simp

section

variable {r : Request} {refusal : Refusal}

/-- Where a name resolves, nothing is wrong with it. -/
theorem two_le_rank {entity : String} (h : resolve .model r.collection = .ok entity) (hf : Faulty r refusal) :
    2 ≤ refusal.rank := by
  obtain ⟨n, hn, hcollection, -⟩ := resolve_eq_ok_iff.mp h
  cases hf with
  | missingName hblank =>
    -- nothing is left of a blank name
    rw [trim_eq_nil_iff.mpr (hblank n hn)] at hcollection
    exact absurd hcollection (by decide)
  | invalidName hm hinvalid =>
    obtain rfl := Option.some.inj (hn.symm.trans hm)
    exact absurd (isCollection_iff.mp hcollection) hinvalid
  | unsafeFilter | unsafeAggregate | unsupportedAggregate => simp [Refusal.rank]

/-- Where a filter passes, nothing is wrong with it. -/
theorem rank_ne_two {filter : Option String} (h : r.filter? = .ok filter) (hf : Faulty r refusal) :
    refusal.rank ≠ 2 := by
  obtain ⟨hfilter, hsafe⟩ := filter?_eq_ok_iff.mp h
  cases hf with
  | unsafeFilter ht hrefused =>
    rw [isGiven_iff.mp ht] at hfilter
    rw [hsafe _ hfilter] at hrefused
    exact absurd hrefused (by decide)
  | _ => simp [Refusal.rank]

/-- Where an aggregate passes, nothing is wrong with its statement. -/
theorem rank_le_two {aggregate : Option Aggregate} (h : r.aggregate? = .ok aggregate) (hf : Faulty r refusal) :
    refusal.rank ≤ 2 := by
  have hpassed : ∀ t, IsGiven r.aggregate t → isSafe t = true ∧ Fragment.aggregate? t ≠ none := by
    intro t ht
    rcases aggregate?_eq_ok_iff.mp h with ⟨hnone, -⟩ | ⟨s, a, hs, hsafe, hread, -⟩
    · exact absurd ⟨t, ht⟩ (nonBlank?_eq_none_iff_isGiven.mp hnone)
    · obtain rfl := Option.some.inj (hs.symm.trans (isGiven_iff.mp ht))
      exact ⟨hsafe, by simp [hread]⟩
  cases hf with
  | unsafeAggregate ht hrefused => exact absurd (hpassed _ ht).1 (by simp [hrefused])
  | unsupportedAggregate ht hread => exact absurd hread (hpassed _ ht).2
  | _ => simp [Refusal.rank]

/-! ## The first fault -/

/-- A request that compiles has no fault. -/
theorem not_faulty_of_compile {q : Query} (h : r.compile = .ok q) : ¬ Faulty r refusal := by
  intro hf
  obtain ⟨hname, hfilter, aggregate, haggregate, -⟩ := compile_eq_ok_iff.mp h
  have hlow := two_le_rank hname hf
  have hne := rank_ne_two hfilter hf
  have hhigh := rank_le_two haggregate hf
  omega

/-- A name that does not resolve is a fault of the request. -/
theorem faulty_of_resolve (h : resolve .model r.collection = .error refusal) : Faulty r refusal := by
  rcases resolve_eq_error_iff.mp h with ⟨hnone, rfl⟩ | ⟨n, hn, hinvalid, rfl⟩
  · refine .missingName fun n hn => ?_
    exact trim_eq_nil_iff.mp (nonBlank?_eq_none_iff.mp hnone n hn)
  · refine .invalidName (nonBlank?_eq_some_iff.mp hn).1 ?_
    rw [← isCollection_iff, hinvalid]
    decide

/-- A request is refused for a fault that it has. -/
theorem faulty_of_compile (h : r.compile = .error refusal) : Faulty r refusal := by
  rcases compile_eq_error_iff.mp h with hname | ⟨entity, -, hfilter | ⟨filter, -, haggregate⟩⟩
  · exact faulty_of_resolve hname
  · obtain ⟨rfl, t, ht, hrefused⟩ := filter?_eq_error_iff.mp hfilter
    exact .unsafeFilter (isGiven_iff.mpr ht) hrefused
  · obtain ⟨t, ht, ⟨hrefused, rfl⟩ | ⟨-, hread, rfl⟩⟩ := aggregate?_eq_error_iff.mp haggregate
    · exact .unsafeAggregate (isGiven_iff.mpr ht) hrefused
    · exact .unsupportedAggregate (isGiven_iff.mpr ht) hread

/-- A request is refused for no fault that is looked for later than another one that it has. -/
theorem rank_le_of_compile (h : r.compile = .error refusal) {other : Refusal} (ho : Faulty r other) :
    refusal.rank ≤ other.rank := by
  rcases compile_eq_error_iff.mp h with hname | ⟨entity, hname, hfilter | ⟨filter, hfilter, haggregate⟩⟩
  · rcases resolve_eq_error_iff.mp hname with ⟨-, rfl⟩ | ⟨n, hn, -, rfl⟩
    · exact Nat.zero_le _
    · -- a name that is invalid is not missing
      cases ho with
      | missingName hblank =>
        obtain ⟨hn, hgiven⟩ := isGiven_iff.mpr hn
        obtain ⟨c, hc, hnot⟩ := hgiven
        rw [hblank n hn c hc] at hnot
        exact absurd hnot (by decide)
      | _ => simp [Refusal.rank]
  · obtain ⟨rfl, -⟩ := filter?_eq_error_iff.mp hfilter
    exact two_le_rank hname ho
  · have hlow := two_le_rank hname ho
    have hne := rank_ne_two hfilter ho
    obtain ⟨t, ht, ⟨-, rfl⟩ | ⟨hsafe, -, rfl⟩⟩ := aggregate?_eq_error_iff.mp haggregate
    · show 3 ≤ other.rank
      omega
    · -- a statement that is not understood is safe
      cases ho with
      | unsafeAggregate hu hrefused =>
        obtain rfl := Option.some.inj (ht.symm.trans (isGiven_iff.mp hu))
        rw [hsafe] at hrefused
        exact absurd hrefused (by decide)
      | unsupportedAggregate => exact Nat.le_refl _
      | missingName | invalidName | unsafeFilter =>
        simp only [Refusal.rank] at hlow hne
        omega

/-- A request is refused for a fault of it that no other fault precedes. -/
theorem compile_eq_error_iff_first : r.compile = .error refusal ↔
    Faulty r refusal ∧ ∀ other, Faulty r other → refusal.rank ≤ other.rank := by
  constructor
  · intro h
    exact ⟨faulty_of_compile h, fun other ho => rank_le_of_compile h ho⟩
  · rintro ⟨hf, hfirst⟩
    cases h : r.compile with
    | ok q => exact absurd hf (not_faulty_of_compile h)
    | error e =>
      -- both are first, and a request has one fault of each rank
      have he := faulty_of_compile h
      have hrank : e.rank = refusal.rank := Nat.le_antisymm (rank_le_of_compile h hf) (hfirst e he)
      rw [he.eq_of_rank_eq hf hrank]

/-- A request compiles exactly if it has no fault. -/
theorem exists_compile_iff : (∃ q, r.compile = .ok q) ↔ ∀ refusal, ¬ Faulty r refusal := by
  constructor
  · rintro ⟨q, h⟩ refusal
    exact not_faulty_of_compile h
  · intro hnone
    cases h : r.compile with
    | ok q => exact ⟨q, rfl⟩
    | error e => exact absurd (faulty_of_compile h) (hnone e)

/-- What is wrong with a request depends on its name, its filter and its aggregate statement only. -/
theorem Faulty.of_eq {s : Request} (hname : s.collection = r.collection) (hfilter : s.filter = r.filter)
    (haggregate : s.aggregate = r.aggregate) (h : Faulty r refusal) : Faulty s refusal := by
  cases h with
  | missingName h => exact .missingName (by rwa [hname])
  | invalidName hn h => exact .invalidName (hname.trans hn) h
  | unsafeFilter ht h => exact .unsafeFilter (by rwa [hfilter]) h
  | unsafeAggregate ht h => exact .unsafeAggregate (by rwa [haggregate]) h
  | unsupportedAggregate ht h => exact .unsupportedAggregate (by rwa [haggregate]) h

/-- Order, limit and count are no part of any fault. -/
theorem faulty_update_iff {order : Option String} {limit : Option Int64} {countOnly : Option Bool} :
    Faulty { r with order := order, limit := limit, countOnly := countOnly } refusal ↔ Faulty r refusal :=
  ⟨.of_eq rfl rfl rfl, .of_eq rfl rfl rfl⟩

end

/-- **Every request is refused for its first fault, or becomes a query.** -/
theorem refusedForFirstFault (r : Request) : RefusedForFirstFault r where
  refused := fun _ => compile_eq_error_iff_first
  compiled := exists_compile_iff
  indifferent := by
    intro order limit countOnly refusal
    rw [compile_eq_error_iff_first, compile_eq_error_iff_first]
    simp only [faulty_update_iff]

end RecordGate
