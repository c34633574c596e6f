import Mathlib.Data.List.Nodup
import Mathlib.Logic.Relation
import RecordGate.Proofs.Tools.Arguments
import RecordGate.Query.Compile

/-!
# `RecordGate.Proofs.Tools.Selection` — which members of the arguments count

The arguments of a selection are an object, of which six members are read by their names. A member that is `null` is as
good as none, members of other names are passed over, and the order of the members is not seen, since each name stands
once. So objects that can be edited into each other by such steps make the same request, or are refused alike (`Edit`,
`selectArguments_eq_of_edit`). They are refused for a member of the wrong type only, and never for their limit
(`readByName_of_nodup`).
-/

namespace RecordGate.Tools

open Json

/-! ## What is read -/

/-- The members of a selection that are texts. -/
def textNames : List String :=
  ["model_name", "filter_condition", "order_by", "aggregate_statement"]

/-- All members of a selection. -/
def selectionNames : List String :=
  textNames ++ ["count_only", "limit"]

/-- The value is `null` or has the form. -/
def IsNullOr {α : Type} (form : α → Json) (value : Json) : Prop :=
  value = .null ∨ ∃ a, value = form a

/-- The names of the members. -/
def names (members : List (String × Json)) : List String :=
  members.map (·.1)

/-- **Edits of arguments that make no difference**, in the direction in which the arguments do not grow. -/
inductive Edit : List (String × Json) → List (String × Json) → Prop where
  /-- A member is left out that is none of a selection. -/
  | foreign {a b : List (String × Json)} {name : String} {value : Json} (h : name ∉ selectionNames) :
      Edit (a ++ (name, value) :: b) (a ++ b)
  /-- A member is left out that is `null`. -/
  | null {a b : List (String × Json)} {name : String} (h : name ∉ names (a ++ b)) :
      Edit (a ++ (name, .null) :: b) (a ++ b)
  /-- The members are reordered. -/
  | reorder {a b : List (String × Json)} (h : a.Perm b) (hnodup : (names a).Nodup) : Edit a b

/-- **Arguments are read by name**: only the members of a selection count, and no limit is refused. -/
structure ReadByName (members : List (String × Json)) : Prop where
  /-- Arguments are refused exactly for a text that is none, or for a flag that is none. -/
  refused : (∃ error, selectArguments (.object members) = .error error) ↔
    (∃ name ∈ textNames, ∃ value, (name, value) ∈ members ∧ ¬ IsNullOr .string value) ∨
      ∃ value, ("count_only", value) ∈ members ∧ ¬ IsNullOr .bool value
  /-- Otherwise they make the request whose fields they hold. -/
  read : ∀ request, selectArguments (.object members) = .ok request ↔ ReadFrom (lookup members) request
  /-- Any value may be added as the limit. It changes nothing but the limit of the request, if there is one. -/
  limit : ∀ a b value, members = a ++ b → "limit" ∉ names members →
    selectArguments (.object (a ++ ("limit", value) :: b)) =
      (selectArguments (.object members)).map fun request => { request with limit := lenientLimit (some value) }
  /-- Members of other names may come and go, so may members that are `null`, and the order may change, any number of
      times: the request stays, or the error. -/
  edited : ∀ members', Relation.EqvGen Edit members members' →
    selectArguments (.object members') = selectArguments (.object members)
  /-- So does the query, or the refusal. -/
  compiled : ∀ members', Relation.EqvGen Edit members members' →
    (selectArguments (.object members')).map Request.compile = (selectArguments (.object members)).map Request.compile

/-! ## Looking up a name -/

section

variable {members a b : List (String × Json)} {name other : String} {value : Json}

/-- A value that is found stands under its name. -/
theorem mem_of_lookup (h : lookup members name = some value) : (name, value) ∈ members := by
  obtain ⟨member, hfound, rfl⟩ := Option.map_eq_some_iff.mp h
  have hname := List.find?_some hfound
  rw [← beq_iff_eq.mp hname]
  exact List.mem_reverse.mp (List.mem_of_find?_eq_some hfound)

/-- **Where each name stands once**, a name is looked up as the value of its member. -/
theorem lookup_eq_some_iff (hnodup : (names members).Nodup) :
    lookup members name = some value ↔ (name, value) ∈ members := by
  refine ⟨mem_of_lookup, fun hmem => ?_⟩
  cases hfound : lookup members name with
  | none =>
    have hnone := Option.map_eq_none_iff.mp hfound
    rw [List.find?_eq_none] at hnone
    exact absurd (beq_self_eq_true name) (hnone _ (List.mem_reverse.mpr hmem))
  | some found =>
    have hsame := List.inj_on_of_nodup_map hnodup (mem_of_lookup hfound) hmem rfl
    exact congrArg some (Prod.mk.inj hsame).2

theorem not_mem_names_right (h : name ∉ names (a ++ b)) : name ∉ names b := by
  intro hmem
  refine h ?_
  rw [names, List.map_append]
  exact List.mem_append_right _ hmem

theorem lookup_eq_none (h : name ∉ names members) : lookup members name = none := by
  cases hfound : lookup members name with
  | none => rfl
  | some value => exact absurd (List.mem_map_of_mem (mem_of_lookup hfound)) h

/-- A member is no matter to the other names. -/
theorem lookup_append_cons_of_ne (h : name ≠ other) :
    lookup (a ++ (name, value) :: b) other = lookup (a ++ b) other := by
  unfold lookup
  simp [List.find?_append, h]

/-- A member is found under its name if no later one has that name. -/
theorem lookup_append_cons_self (h : name ∉ names b) : lookup (a ++ (name, value) :: b) name = some value := by
  have hnone : b.reverse.find? (fun member => member.1 == name) = none := by
    rw [← Option.map_eq_none_iff (f := Prod.snd)]
    exact lookup_eq_none h
  unfold lookup
  simp [List.find?_append, hnone]

/-- Members under different names are found in any order. -/
theorem lookup_perm (h : a.Perm b) (hnodup : (names a).Nodup) (name : String) : lookup a name = lookup b name := by
  have hnodup' : (names b).Nodup := (h.map _).nodup_iff.mp hnodup
  ext value
  rw [lookup_eq_some_iff hnodup, lookup_eq_some_iff hnodup', h.mem_iff]

end

/-! ## Members that are `null` -/

/-- The value of a member, unless it is `null`. -/
def given? : Option Json → Option Json
  | some .null => none
  | member => member

/-- A null text is as good as none. -/
theorem optionalText_given? (member : Option Json) : optionalText (given? member) = optionalText member := by
  cases member with
  | none => rfl
  | some value => cases value <;> rfl

/-- A null flag is as good as none. -/
theorem optionalFlag_given? (member : Option Json) : optionalFlag (given? member) = optionalFlag member := by
  cases member with
  | none => rfl
  | some value => cases value <;> rfl

/-- A null limit is as good as none. -/
theorem lenientLimit_given? (member : Option Json) : lenientLimit (given? member) = lenientLimit member := by
  cases member with
  | none => rfl
  | some value => cases value <;> rfl

/-! ## What a request depends on -/

section

variable {get? other? : String → Option Json}

/-- **A request depends on the six members of a selection**, and on these only as far as they are not `null`. -/
theorem requestOfMembers_congr (h : ∀ name ∈ selectionNames, given? (get? name) = given? (other? name)) :
    requestOfMembers get? = requestOfMembers other? := by
  have htext : ∀ name ∈ selectionNames, optionalText (get? name) = optionalText (other? name) := by
    intro name hname
    rw [← optionalText_given?, h name hname, optionalText_given?]
  have hflag : optionalFlag (get? "count_only") = optionalFlag (other? "count_only") := by
    rw [← optionalFlag_given?, h "count_only" (by decide), optionalFlag_given?]
  have hlimit : lenientLimit (get? "limit") = lenientLimit (other? "limit") := by
    rw [← lenientLimit_given?, h "limit" (by decide), lenientLimit_given?]
  unfold requestOfMembers
  rw [htext "aggregate_statement" (by decide), htext "filter_condition" (by decide), htext "model_name" (by decide),
    htext "order_by" (by decide), hflag, hlimit]

/-- **A limit changes nothing but the limit.** -/
theorem requestOfMembers_of_limit {value : Json} (h : ∀ name, name ≠ "limit" → get? name = other? name)
    (hlimit : get? "limit" = some value) : requestOfMembers get? =
      (requestOfMembers other?).map fun request => { request with limit := lenientLimit (some value) } := by
  have hmap : ∀ (f : Request → Request) (x : Except ArgumentError Request), x.map f = f <$> x := fun _ _ => rfl
  unfold requestOfMembers
  rw [h "aggregate_statement" (by decide), h "filter_condition" (by decide), h "model_name" (by decide),
    h "order_by" (by decide), h "count_only" (by decide), hlimit]
  simp only [hmap, map_bind]
  rfl

/-! ## When arguments are refused -/

/-- A member can be read exactly if it is missing, null or of its type. -/
theorem exists_member_iff {α : Type} {form : α → Json} {member : Option Json} :
    (∃ a, Member form member a) ↔ ∀ value, member = some value → IsNullOr form value := by
  constructor
  · rintro ⟨a, hmember⟩ value rfl
    cases hmember with
    | null => exact Or.inl rfl
    | value a => exact Or.inr ⟨a, rfl⟩
  · intro h
    cases member with
    | none => exact ⟨none, .absent⟩
    | some value =>
      rcases h value rfl with rfl | ⟨a, rfl⟩
      · exact ⟨none, .null⟩
      · exact ⟨some a, .value a⟩

/-- **Arguments make a request** if each of five members is `null` or what it should be. Nothing is asked of the sixth. -/
theorem exists_readFrom_iff : (∃ request, ReadFrom get? request) ↔
    (∀ name ∈ textNames, ∃ text, Member .string (get? name) text) ∧ ∃ flag, Member .bool (get? "count_only") flag := by
  simp only [textNames, List.forall_mem_cons, List.not_mem_nil, false_imp_iff, implies_true, and_true]
  constructor
  · rintro ⟨request, h⟩
    exact ⟨⟨⟨_, h.collection⟩, ⟨_, h.filter⟩, ⟨_, h.order⟩, ⟨_, h.aggregate⟩⟩, ⟨_, h.countOnly⟩⟩
  · rintro ⟨⟨⟨collection, hcollection⟩, ⟨filter, hfilter⟩, ⟨order, horder⟩, ⟨aggregate, haggregate⟩⟩, ⟨countOnly, hflag⟩⟩
    exact ⟨{ collection, filter, order, limit := lenientLimit (get? "limit"), aggregate, countOnly },
      hcollection, hfilter, horder, rfl, haggregate, hflag⟩

end

theorem exists_error_iff {ε α : Type} {x : Except ε α} : (∃ e, x = .error e) ↔ ¬ ∃ a, x = .ok a := by
  cases x with
  | error e => simp
  | ok a => simp

/-- Arguments are refused exactly for a text field that is no text or a flag that is no flag, null apart. -/
theorem exists_selectArguments_error_iff {members : List (String × Json)} (hnodup : (names members).Nodup) :
    (∃ error, selectArguments (.object members) = .error error) ↔
      (∃ name ∈ textNames, ∃ value, (name, value) ∈ members ∧ ¬ IsNullOr .string value) ∨
        ∃ value, ("count_only", value) ∈ members ∧ ¬ IsNullOr .bool value := by
  rw [exists_error_iff]
  simp only [selectArguments_eq_ok_iff, exists_readFrom_iff, exists_member_iff, lookup_eq_some_iff hnodup, not_and_or,
    not_forall, exists_prop]

/-! ## Edits -/

/-- **An edit makes no difference.** -/
theorem selectArguments_eq_of_edit {members members' : List (String × Json)} (h : Edit members members') :
    selectArguments (.object members') = selectArguments (.object members) := by
  refine requestOfMembers_congr fun name hname => ?_
  cases h with
  | foreign hforeign =>
    have hne := ne_of_mem_of_not_mem hname hforeign
    rw [lookup_append_cons_of_ne hne.symm]
  | @null a b other hnull =>
    by_cases hother : other = name
    · obtain rfl := hother
      rw [lookup_append_cons_self (not_mem_names_right hnull), lookup_eq_none hnull]
      rfl
    · rw [lookup_append_cons_of_ne hother]
  | reorder hperm hnodup => rw [lookup_perm hperm hnodup]

/-- **Any number of edits makes none**, whether they are made or undone. -/
theorem selectArguments_eq_of_edits {members members' : List (String × Json)}
    (h : Relation.EqvGen Edit members members') :
    selectArguments (.object members') = selectArguments (.object members) := by
  induction h with
  | rel _ _ hedit => exact selectArguments_eq_of_edit hedit
  | refl => rfl
  | symm _ _ _ ih => exact ih.symm
  | trans _ _ _ _ _ ih ih' => exact ih'.trans ih

/-- **Arguments whose names stand once are read by name.** -/
theorem readByName_of_nodup {members : List (String × Json)} (h : (names members).Nodup) : ReadByName members where
  refused := exists_selectArguments_error_iff h
  read := fun _ => selectArguments_eq_ok_iff
  limit := by
    rintro a b value rfl hlimit
    refine requestOfMembers_of_limit (fun name hname => ?_) (lookup_append_cons_self (not_mem_names_right hlimit))
    exact lookup_append_cons_of_ne hname.symm
  edited := fun _ hedits => selectArguments_eq_of_edits hedits
  compiled := fun _ hedits => by rw [selectArguments_eq_of_edits hedits]

/-- Arguments with a list for a limit, a member that is `null`, and one that belongs to no selection. -/
def looseArguments : List (String × Json) :=
  [("limit", .array [.null]), ("colour", .bool true), ("order_by", .null), ("model_name", .string "posts")]

/-- Arguments with an unknown key, a null and a limit of another type are read. -/
theorem readByName_looseArguments : (names looseArguments).Nodup ∧ ReadByName looseArguments := by
  have h : (names looseArguments).Nodup := by decide
  exact ⟨h, readByName_of_nodup h⟩

end RecordGate.Tools
