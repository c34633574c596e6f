import RecordGate.Evaluation.Environment

/-!
# `RecordGate.Proofs.Evaluation.Environment` — which variables an evaluator gets

Setting a variable changes its value and no other (`get?_set`), and gives the variables one name more at most
(`mem_names_set`), each once (`nodup_names_set`). A list of assignments then gives every name the last value that it
is assigned (`get?_ofList`).
-/

namespace RecordGate.Variables

/-- The names of the variables. -/
def names (vars : Variables) : List String :=
  vars.entries.map (·.1)

/-! ## One assignment -/

/-- **Setting a variable** changes its value and no other. -/
theorem get?_set (vars : Variables) (name value key : String) :
    (vars.set name value).get? key = if key = name then some value else vars.get? key := by
  unfold get? set
  rw [List.find?_append]
  by_cases hkey : key = name
  · -- what the name had before is gone
    subst hkey
    have hnone : (vars.entries.filter fun entry => entry.1 != key).find? (fun entry => entry.1 == key) = none := by
      rw [List.find?_eq_none]
      intro entry hentry
      simpa using (List.mem_filter.mp hentry).2
    rw [if_pos rfl, hnone]
    simp
  · -- the entries of another name are kept
    have hkept : (vars.entries.filter fun entry => entry.1 != name).find? (fun entry => entry.1 == key) =
        vars.entries.find? fun entry => entry.1 == key := by
      rw [List.find?_filter]
      congr 1
      funext entry
      by_cases he : entry.1 = key
      · simp [he, hkey]
      · simp [he]
    have hlast : ([(name, value)].find? fun entry => entry.1 == key) = none := by
      simp [Ne.symm hkey]
    rw [if_neg hkey, hkept, hlast, Option.or_none]

/-- There is one name more at most. -/
theorem mem_names_set {vars : Variables} {name value key : String} :
    key ∈ (vars.set name value).names ↔ key ∈ vars.names ∨ key = name := by
  unfold names set
  simp only [List.map_append, List.map_cons, List.map_nil, List.mem_append, List.mem_singleton, List.mem_map,
    List.mem_filter, bne_iff_ne, ne_eq]
  constructor
  · rintro (⟨entry, ⟨hmem, -⟩, rfl⟩ | rfl)
    · exact Or.inl ⟨entry, hmem, rfl⟩
    · exact Or.inr rfl
  · rintro (⟨entry, hmem, rfl⟩ | rfl)
    · by_cases he : entry.1 = name
      · exact Or.inr he
      · exact Or.inl ⟨entry, ⟨hmem, he⟩, rfl⟩
    · exact Or.inr rfl

/-- A variable that is set again is moved, not repeated. -/
theorem nodup_names_set {vars : Variables} (h : vars.names.Nodup) (name value : String) :
    (vars.set name value).names.Nodup := by
  unfold names set at *
  rw [List.map_append, List.nodup_append]
  refine ⟨h.sublist (List.filter_sublist.map _), by simp, ?_⟩
  intro key hkey last hlast
  obtain ⟨entry, hentry, rfl⟩ := List.mem_map.mp hkey
  obtain rfl := List.mem_singleton.mp hlast
  exact bne_iff_ne.mp (List.mem_filter.mp hentry).2

/-! ## Lists of assignments -/

/-- The variables after some more assignments. -/
def assigned (vars : Variables) (assignments : List (String × String)) : Variables :=
  assignments.foldl (fun vars entry => vars.set entry.1 entry.2) vars

/-- The last assignment of a name counts, and where there is none, the value before. -/
theorem get?_assigned (vars : Variables) (assignments : List (String × String)) (key : String) :
    (vars.assigned assignments).get? key = (assignments.reverse.lookup key).or (vars.get? key) := by
  induction assignments generalizing vars with
  | nil => rfl
  | cons entry rest ih =>
    show ((vars.set entry.1 entry.2).assigned rest).get? key = _
    rw [ih, List.reverse_cons, List.lookup_append, List.lookup_singleton, get?_set, Option.or_assoc]
    congr 1
    by_cases hkey : key = entry.1
    · rw [if_pos hkey, if_pos (beq_iff_eq.mpr hkey), Option.some_or]
    · rw [if_neg hkey, if_neg (fun h => hkey (beq_iff_eq.mp h)), Option.none_or]

theorem mem_names_assigned {vars : Variables} {assignments : List (String × String)} {key : String} :
    key ∈ (vars.assigned assignments).names ↔ key ∈ vars.names ∨ key ∈ assignments.map (·.1) := by
  induction assignments generalizing vars with
  | nil => simp [assigned]
  | cons entry rest ih =>
    show key ∈ ((vars.set entry.1 entry.2).assigned rest).names ↔ _
    rw [ih, mem_names_set, List.map_cons, List.mem_cons, or_assoc]

theorem nodup_names_assigned {vars : Variables} (h : vars.names.Nodup) (assignments : List (String × String)) :
    (vars.assigned assignments).names.Nodup := by
  induction assignments generalizing vars with
  | nil => exact h
  | cons entry rest ih => exact ih (nodup_names_set h entry.1 entry.2)

/-- **The last assignment of a name counts.** -/
theorem get?_ofList (assignments : List (String × String)) (key : String) :
    (ofList assignments).get? key = assignments.reverse.lookup key := by
  show (assigned {} assignments).get? key = _
  rw [get?_assigned]
  exact Option.or_none

/-- A list of assignments sets the variables that it names, and no others. -/
theorem mem_names_ofList {assignments : List (String × String)} {key : String} :
    key ∈ (ofList assignments).names ↔ key ∈ assignments.map (·.1) := by
  show key ∈ (assigned {} assignments).names ↔ _
  rw [mem_names_assigned]
  simp [names]

theorem nodup_names_ofList (assignments : List (String × String)) : (ofList assignments).names.Nodup :=
  nodup_names_assigned (show (names {}).Nodup from List.nodup_nil) assignments

end RecordGate.Variables
