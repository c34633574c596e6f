import RecordGate.Proofs.Fragment.Aggregate

/-!
# `RecordGate.Proofs.Fragment.Statement` — the grammar of aggregate statements

A statement is the name of a function, white space, and an argument in parentheses that may be left out where
records are counted (`Denotes`). What is read as a reduction is exactly what this grammar derives, with the
reduction it derives it for; every other text is refused (`readByGrammar`).
-/

namespace RecordGate.Fragment

open Text

/-- `argument` stands behind the name of `function`, and they ask for the reduction. -/
inductive Argument (function : ColumnFunction) : (argument : List Char) → Aggregate → Prop where
  /-- Without an argument, records are counted. -/
  | none (count : function = .count) : Argument function [] .count
  /-- So they are with nothing between the parentheses but white space, or with a star. -/
  | all (inner : List Char) (count : function = .count) (flat : ∀ c ∈ inner, c ≠ '(' ∧ c ≠ ')')
      (eq : trim inner = [] ∨ trim inner = ['*']) : Argument function ('(' :: (inner ++ [')'])) .count
  /-- Between the parentheses, and perhaps white space, stands a reference to a column. -/
  | column (inner name : List Char) (flat : ∀ c ∈ inner, c ≠ '(' ∧ c ≠ ')') (refersTo : RefersTo name (trim inner))
      (isColumnName : IsColumnName name) :
      Argument function ('(' :: (inner ++ [')'])) (.column function (String.ofList name))

/-- A statement, without the white space around it, asks for the reduction. -/
inductive Denotes (statement : List Char) (aggregate : Aggregate) : Prop where
  /-- The name of a function, white space, and an argument. -/
  | call (name blanks argument : List Char) (function : ColumnFunction) (eq : statement = name ++ (blanks ++ argument))
      (calls : Calls name function) (isBlank : ∀ c ∈ blanks, isBlank c = true)
      (denotes : Argument function argument aggregate)

/-- An argument is one of the grammar exactly if it is read as such. -/
theorem argument_iff {function : ColumnFunction} {rest : List Char} {aggregate : Aggregate} :
    Argument function rest aggregate ↔
      ∃ argument, argument? rest = some argument ∧ applied? function argument = some aggregate := by
  constructor
  · intro h
    cases h with
    | none count =>
      exact ⟨[], argument?_eq_some_iff.mpr (Or.inl ⟨rfl, rfl⟩),
        applied?_eq_some_iff.mpr (Or.inl ⟨count, Or.inl rfl, rfl⟩)⟩
    | all inner count flat eq =>
      exact ⟨trim inner, argument?_eq_some_iff.mpr (Or.inr ⟨inner, rfl, flat, rfl⟩),
        applied?_eq_some_iff.mpr (Or.inl ⟨count, eq, rfl⟩)⟩
    | column inner name flat refersTo isColumnName =>
      have hcolumn := column?_eq_some_iff.mpr ⟨name, refersTo, isColumnName, rfl⟩
      exact ⟨trim inner, argument?_eq_some_iff.mpr (Or.inr ⟨inner, rfl, flat, rfl⟩),
        applied?_eq_some_iff.mpr (Or.inr ⟨_, hcolumn, rfl⟩)⟩
  · rintro ⟨argument, hargument, happlied⟩
    obtain ⟨rfl, rfl⟩ | ⟨inner, rfl, flat, rfl⟩ := argument?_eq_some_iff.mp hargument
    · obtain ⟨count, -, rfl⟩ | ⟨column, hcolumn, -⟩ := applied?_eq_some_iff.mp happlied
      · exact .none count
      · exact absurd (column?_nil.symm.trans hcolumn) (by simp)
    · obtain ⟨count, eq, rfl⟩ | ⟨column, hcolumn, rfl⟩ := applied?_eq_some_iff.mp happlied
      · exact .all inner count flat eq
      · obtain ⟨name, refersTo, isColumnName, rfl⟩ := column?_eq_some_iff.mp hcolumn
        exact .column inner name flat refersTo isColumnName

/-- **A statement denotes a reduction** exactly if it is read as this reduction. -/
theorem denotes_iff {s : String} {aggregate : Aggregate} :
    Denotes (trim s.toList) aggregate ↔ aggregate? s = some aggregate := by
  rw [aggregate?_eq_some_iff]
  constructor
  · rintro ⟨name, blanks, rest, function, eq, calls, isBlank, denotes⟩
    obtain ⟨argument, hargument, happlied⟩ := argument_iff.mp denotes
    exact ⟨name, blanks, rest, function, argument, eq, calls, isBlank, hargument, happlied⟩
  · rintro ⟨name, blanks, rest, function, argument, eq, calls, isBlank, hargument, happlied⟩
    exact .call name blanks rest function eq calls isBlank (argument_iff.mpr ⟨argument, hargument, happlied⟩)

/-- **Statements are read by their grammar**: a statement gives a reduction if and only if the grammar derives it
    for that reduction, and none if the grammar derives it for none. -/
theorem readByGrammar (s : String) :
    (∀ aggregate, aggregate? s = some aggregate ↔ Denotes (trim s.toList) aggregate) ∧
      (aggregate? s = none ↔ ∀ aggregate, ¬ Denotes (trim s.toList) aggregate) := by
  refine ⟨fun aggregate => denotes_iff.symm, ?_⟩
  rw [Option.eq_none_iff_forall_ne_some]
  exact forall_congr' fun aggregate => not_congr denotes_iff.symm

example : ["sum", "sum(*)", "min('age)", "max(':age')", "sum(price); exit", "\u017fum(price)"].map aggregate? =
    List.replicate 6 none := by
  decide +kernel

end RecordGate.Fragment
