import RecordGate.Tools.Arguments

/-!
# `RecordGate.Proofs.Tools.Arguments` — which arguments make which request

A member of the arguments stands for a value of its type, or for none when it is absent or `null` (`Member`). The
arguments of a selection make a request exactly when five of its fields are so read from the members of their names
(`ReadFrom`, `selectArguments_eq_ok_iff`); the limit is read from whatever stands there.
-/

namespace RecordGate.Tools

open Json

/-! ## Members -/

/-- What a member stands for whose values are written in one form: nothing if it is absent or `null`. -/
inductive Member {α : Type} (form : α → Json) : Option Json → Option α → Prop where
  | absent : Member form none none
  | null : Member form (some .null) none
  | value (a : α) : Member form (some (form a)) (some a)

/-- A text field is read as absent where it is missing or null, and as its text where it is one. -/
theorem optionalText_eq_ok_iff {member : Option Json} {text : Option String} :
    optionalText member = .ok text ↔ Member .string member text := by
  constructor
  · intro h
    unfold optionalText at h
    split at h
    · rw [← Except.ok.inj h]
      exact .absent
    · rw [← Except.ok.inj h]
      exact .null
    · rw [← Except.ok.inj h]
      exact .value _
    · exact absurd h (by simp)
  · rintro (_ | _ | s)
    · rfl
    · rfl
    · rfl

/-- A flag is read as absent where it is missing or null, and as its value where it is one. -/
theorem optionalFlag_eq_ok_iff {member : Option Json} {flag : Option Bool} :
    optionalFlag member = .ok flag ↔ Member .bool member flag := by
  constructor
  · intro h
    unfold optionalFlag at h
    split at h
    · rw [← Except.ok.inj h]
      exact .absent
    · rw [← Except.ok.inj h]
      exact .null
    · rw [← Except.ok.inj h]
      exact .value _
    · exact absurd h (by simp)
  · rintro (_ | _ | b)
    · rfl
    · rfl
    · rfl

/-! ## Selections -/

/-- **The fields of a request are those of the arguments.** -/
structure ReadFrom (get? : String → Option Json) (request : Request) : Prop where
  collection : Member .string (get? "model_name") request.collection
  filter : Member .string (get? "filter_condition") request.filter
  order : Member .string (get? "order_by") request.order
  limit : request.limit = lenientLimit (get? "limit")
  aggregate : Member .string (get? "aggregate_statement") request.aggregate
  countOnly : Member .bool (get? "count_only") request.countOnly

/-- A computation gives a result exactly if its first part does and the rest does from there. -/
theorem bind_eq_ok_iff {ε α β : Type} {x : Except ε α} {f : α → Except ε β} {b : β} :
    (x >>= f) = .ok b ↔ ∃ a, x = .ok a ∧ f a = .ok b := by
  cases x with
  | error e =>
    constructor
    · intro h
      exact absurd h (by simp [bind, Except.bind])
    · rintro ⟨a, ha, -⟩
      exact absurd ha (by simp)
  | ok a =>
    constructor
    · intro h
      exact ⟨a, rfl, h⟩
    · rintro ⟨a', ha, h⟩
      rw [Except.ok.inj ha]
      exact h

/-- A request is read exactly if every field of it is, each from the member of its name. -/
theorem requestOfMembers_eq_ok_iff {get? : String → Option Json} {request : Request} :
    requestOfMembers get? = .ok request ↔ ReadFrom get? request := by
  simp only [requestOfMembers, bind_eq_ok_iff, optionalText_eq_ok_iff, optionalFlag_eq_ok_iff, Except.ok.injEq]
  constructor
  · rintro ⟨aggregate, haggregate, countOnly, hcount, filter, hfilter, collection, hcollection, order, horder, rfl⟩
    exact ⟨hcollection, hfilter, horder, rfl, haggregate, hcount⟩
  · rintro ⟨hcollection, hfilter, horder, hlimit, haggregate, hcount⟩
    refine ⟨_, haggregate, _, hcount, _, hfilter, _, hcollection, _, horder, ?_⟩
    rw [← hlimit]

/-- **Which arguments make which request**: those whose members give it its fields. -/
theorem selectArguments_eq_ok_iff {members : List (String × Json)} {request : Request} :
    selectArguments (.object members) = .ok request ↔ ReadFrom (lookup members) request :=
  requestOfMembers_eq_ok_iff

/-- The description of a table reads its name and nothing else. -/
theorem tableArguments_eq_ok_iff {members : List (String × Json)} {name : Option String} :
    tableArguments members = .ok name ↔ Member .string (lookup members "table_name") name :=
  optionalText_eq_ok_iff

/-- The description of a model reads its name and nothing else. -/
theorem modelArguments_eq_ok_iff {members : List (String × Json)} {name : Option String} :
    modelArguments members = .ok name ↔ Member .string (lookup members "model_name") name :=
  optionalText_eq_ok_iff

/-- Whether the application itself is asked for its models: only if the flag is there and set. -/
theorem listArguments_eq_ok_iff {members : List (String × Json)} {includeSchema : Bool} :
    listArguments members = .ok includeSchema ↔
      ∃ flag, Member .bool (lookup members "include_schema") flag ∧ includeSchema = (flag == some true) := by
  unfold listArguments
  simp only [← optionalFlag_eq_ok_iff]
  cases optionalFlag (lookup members "include_schema") with
  | error e => simp
  | ok flag =>
    simp only [Except.ok.injEq, exists_eq_left']
    cases flag with
    | none => simp [eq_comm]
    | some b => cases b <;> simp [eq_comm]

end RecordGate.Tools
