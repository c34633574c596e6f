import RecordGate.Proofs.Query.Compile

/-!
# `RecordGate.Proofs.Query.Relevance` — which criteria make a difference

Criteria are read in part. An aggregate statement makes the ordering, the limit and the wish for a count idle, the wish
for a count makes the ordering and the limit idle, and blank text is as good as none (`ignoresIdleInputs`). Each of
these is a statement about two compilations, which end alike whether they succeed or fail.

Two compilations end alike when their checks do and, in case these ask for no reduction, their listings are the same
(`compile_congr`). So for each idle input it is enough to see which of these three it enters.
-/

namespace RecordGate

open Text Fragment

/-- **Inputs that are ignored make no difference**, neither to a query nor to a refusal. -/
structure IgnoresIdleInputs (c : Criteria) (entity : String) : Prop where
  /-- Beside an aggregate statement or the wish for a count, ordering and limit are ignored. -/
  ordering : (∃ t, IsGiven c.aggregate t) ∨ c.countOnly = some true → ∀ order order' limit limit',
    Criteria.compile { c with order := order, limit := limit } entity =
      Criteria.compile { c with order := order', limit := limit' } entity
  /-- Beside an aggregate statement, the wish for a count is ignored. -/
  countOnly : (∃ t, IsGiven c.aggregate t) → ∀ wish wish',
    Criteria.compile { c with countOnly := wish } entity = Criteria.compile { c with countOnly := wish' } entity
  /-- Without one, a query gives one value exactly when a count is wished for. -/
  scalar : (¬ ∃ t, IsGiven c.aggregate t) →
    ((∃ q, c.compile entity = .ok q ∧ q.isScalar = true) ↔
      (∃ q, c.compile entity = .ok q) ∧ c.countOnly = some true)
  /-- A filter of white space is as good as none. -/
  blankFilter : ∀ t, (∀ ch ∈ t.toList, isBlank ch = true) →
    Criteria.compile { c with filter := some t } entity = Criteria.compile { c with filter := none } entity
  /-- So is an ordering of white space. -/
  blankOrder : ∀ t, (∀ ch ∈ t.toList, isBlank ch = true) →
    Criteria.compile { c with order := some t } entity = Criteria.compile { c with order := none } entity
  /-- So is an aggregate statement of white space. -/
  blankAggregate : ∀ t, (∀ ch ∈ t.toList, isBlank ch = true) →
    Criteria.compile { c with aggregate := some t } entity = Criteria.compile { c with aggregate := none } entity
  /-- So is text that is no ordering where there should be one. -/
  refusedOrder : ∀ t, ordering? t = none →
    Criteria.compile { c with order := some t } entity = Criteria.compile { c with order := none } entity

/-! ## What a compilation depends on -/

section

variable {c d : Criteria} {entity : String}

/-- **Two compilations end alike** if their checks do, and their listings where these matter. -/
theorem compile_congr (hfilter : c.filter? = d.filter?) (haggregate : c.aggregate? = d.aggregate?)
    (hlisting : d.aggregate? = .ok none → c.listing = d.listing) : c.compile entity = d.compile entity := by
  unfold Criteria.compile
  rw [hfilter, haggregate]
  cases d.filter? with
  | error refusal => rfl
  | ok filter =>
    cases ha : d.aggregate? with
    | error refusal => rfl
    | ok aggregate =>
      cases aggregate with
      | some a => rfl
      | none =>
        rw [hlisting ha]

/-- The compiled filter depends on the filter text only, and blank texts are alike. -/
theorem filter?_congr (h : nonBlank? c.filter = nonBlank? d.filter) : c.filter? = d.filter? := by
  unfold Criteria.filter?
  rw [h]

/-- The compiled aggregate depends on its text, and on the wish for a count only where no text is given. -/
theorem aggregate?_congr (h : nonBlank? c.aggregate = nonBlank? d.aggregate)
    (hwish : nonBlank? d.aggregate = none → c.countOnly = d.countOnly) : c.aggregate? = d.aggregate? := by
  unfold Criteria.aggregate?
  rw [h]
  cases hd : nonBlank? d.aggregate with
  | some t => rfl
  | none => rw [hwish hd]

/-- A listing depends on the order that can be read and on the limit. -/
theorem listing_congr (horder : (nonBlank? c.order).bind ordering? = (nonBlank? d.order).bind ordering?)
    (hlimit : c.limit = d.limit) : c.listing = d.listing := by
  unfold Criteria.listing
  rw [horder, hlimit]

/-- A statement or the wish for a count asks for a reduction, so that nothing is listed. -/
theorem aggregate?_ne_ok_none (h : (∃ t, IsGiven c.aggregate t) ∨ c.countOnly = some true) :
    c.aggregate? ≠ .ok none := by
  intro hok
  rcases aggregate?_eq_ok_iff.mp hok with ⟨hnone, hwish⟩ | ⟨statement, a, -, -, -, ha⟩
  · rcases h with hgiven | hcount
    · exact nonBlank?_eq_none_iff_isGiven.mp hnone hgiven
    · rw [hcount] at hwish
      exact absurd hwish (by decide)
  · exact absurd ha (by simp)

theorem nonBlank?_of_blank {t : String} (h : ∀ ch ∈ t.toList, isBlank ch = true) :
    nonBlank? (some t) = nonBlank? none := by
  show nonBlank? (some t) = none
  rw [nonBlank?_eq_none_iff]
  intro s hs
  rw [← Option.some.inj hs]
  exact trim_eq_nil_iff.mpr h

/-- **Without an aggregate statement only the wish for a count gives one value.** -/
theorem isScalar_compile_iff (h : ¬ ∃ t, IsGiven c.aggregate t) {q : Query} (hq : c.compile entity = .ok q) :
    q.isScalar = true ↔ c.countOnly = some true := by
  obtain ⟨-, -, aggregate, haggregate, hshape⟩ := criteria_compile_eq_ok_iff.mp hq
  have hnone : nonBlank? c.aggregate = none := nonBlank?_eq_none_iff_isGiven.mpr h
  rcases aggregate?_eq_ok_iff.mp haggregate with ⟨-, hwish⟩ | ⟨statement, a, hsome, -⟩
  · unfold Query.isScalar
    rw [hshape, hwish]
    -- nothing is wished for unless the wish is there and granted
    rcases hc : c.countOnly with _ | _ | _
    · simp [Criteria.listing]
    · simp [Criteria.listing]
    · simp
  · rw [hnone] at hsome
    exact absurd hsome (by simp)

end

/-! ## Idle inputs -/

/-- **Whatever the criteria, inputs that they make idle are ignored.** -/
theorem ignoresIdleInputs (c : Criteria) (entity : String) : IgnoresIdleInputs c entity where
  ordering := by
    intro h order order' limit limit'
    refine compile_congr rfl rfl fun hnone => ?_
    exact absurd hnone (aggregate?_ne_ok_none h)
  countOnly := by
    rintro ⟨t, ht⟩ wish wish'
    have hgiven : nonBlank? c.aggregate ≠ none := by
      rw [isGiven_iff.mp ht]
      exact Option.some_ne_none t
    have haggregate : Criteria.aggregate? { c with countOnly := wish } =
        Criteria.aggregate? { c with countOnly := wish' } :=
      aggregate?_congr rfl fun hnone => absurd hnone hgiven
    exact compile_congr rfl haggregate fun _ => rfl
  scalar := by
    intro h
    constructor
    · rintro ⟨q, hq, hscalar⟩
      exact ⟨⟨q, hq⟩, (isScalar_compile_iff h hq).mp hscalar⟩
    · rintro ⟨⟨q, hq⟩, hcount⟩
      exact ⟨q, hq, (isScalar_compile_iff h hq).mpr hcount⟩
  blankFilter := by
    intro t ht
    have hfilter : Criteria.filter? { c with filter := some t } = Criteria.filter? { c with filter := none } :=
      filter?_congr (nonBlank?_of_blank ht)
    exact compile_congr hfilter rfl fun _ => rfl
  blankOrder := by
    intro t ht
    refine compile_congr rfl rfl fun _ => ?_
    refine listing_congr ?_ rfl
    show (nonBlank? (some t)).bind ordering? = (nonBlank? none).bind ordering?
    rw [nonBlank?_of_blank ht]
  blankAggregate := by
    intro t ht
    have haggregate : Criteria.aggregate? { c with aggregate := some t } =
        Criteria.aggregate? { c with aggregate := none } :=
      aggregate?_congr (nonBlank?_of_blank ht) fun _ => rfl
    exact compile_congr rfl haggregate fun _ => rfl
  refusedOrder := by
    intro t ht
    refine compile_congr rfl rfl fun _ => ?_
    refine listing_congr ?_ rfl
    show (nonBlank? (some t)).bind ordering? = none
    -- the text is blank, or it is looked at and refused
    cases hgiven : nonBlank? (some t) with
    | none => rfl
    | some s =>
      obtain ⟨hs, -⟩ := nonBlank?_eq_some_iff.mp hgiven
      rw [← Option.some.inj hs]
      exact ht

end RecordGate
