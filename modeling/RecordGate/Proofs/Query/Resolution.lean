import RecordGate.Proofs.Query.Compile

/-!
# `RecordGate.Proofs.Query.Resolution` — which names resolve, and to what

A name resolves to the constant of an entity exactly when it is present and, without the white space around it, an
ASCII letter followed by ASCII letters, digits and underscores. It does not matter whether it is given as the name
of a model or of a table, except for what a refusal says (`resolvesToConstant`).
-/

namespace RecordGate

open Text Name

/-- An ASCII letter, then ASCII letters, digits and underscores. -/
def IsCollectionText (cs : List Char) : Prop :=
  ∃ c ds, cs = c :: ds ∧ isLetter c = true ∧ ∀ d ∈ ds, isNamePart d = true

/-- The names that are accepted: a letter, and letters, digits and underscores after it. -/
theorem isCollection_iff {cs : List Char} : isCollection cs = true ↔ IsCollectionText cs := by
  cases cs with
  | nil => simp [isCollection, IsCollectionText]
  | cons c cs => simp [isCollection, IsCollectionText, and_assoc]

/-- **What becomes of a name**, whatever it is the name of. -/
structure ResolvesToConstant (name : Option String) : Prop where
  /-- It is resolved when it is present and, trimmed, a collection name. -/
  accepted : ∀ subject, (∃ entity, resolve subject name = .ok entity) ↔
    ∃ n, name = some n ∧ IsCollectionText (trim n.toList)
  /-- It is missing when it is absent or blank. -/
  missing : ∀ subject, resolve subject name = .error (.missingName subject) ↔
    ∀ n, name = some n → ∀ c ∈ n.toList, isBlank c = true
  /-- It is invalid otherwise, and reported as it is without the white space around it. -/
  invalid : ∀ subject text, resolve subject name = .error (.invalidName subject text) ↔
    ∃ n, name = some n ∧ (∃ c ∈ n.toList, isBlank c = false) ∧ ¬ IsCollectionText (trim n.toList) ∧ text = trimmed n
  /-- As the name of a table it stands for the same entity as the name of a model. -/
  alike : ∀ entity, resolve .model name = .ok entity ↔ resolve .table name = .ok entity
  /-- The entity is named by an ASCII upper-case letter, then ASCII letters and digits. -/
  constant : ∀ subject entity, resolve subject name = .ok entity →
    ∃ c cs, entity.toList = c :: cs ∧ isUpper c = true ∧ ∀ d ∈ cs, isAlphanumeric d = true

/-- A name resolves exactly if it is given and its trimmed text is a collection's. -/
theorem exists_resolve_iff {subject : Subject} {name : Option String} :
    (∃ entity, resolve subject name = .ok entity) ↔ ∃ n, name = some n ∧ IsCollectionText (trim n.toList) := by
  simp only [resolve_eq_ok_iff, isCollection_iff]
  constructor
  · rintro ⟨entity, n, hn, hcollection, -⟩
    exact ⟨n, hn, hcollection⟩
  · rintro ⟨n, hn, hcollection⟩
    exact ⟨entityName (trimmed n), n, hn, hcollection, rfl⟩

/-- The name counts as missing if none is given or it is blank. -/
theorem resolve_eq_missingName_iff {subject : Subject} {name : Option String} :
    resolve subject name = .error (.missingName subject) ↔ ∀ n, name = some n → ∀ c ∈ n.toList, isBlank c = true := by
  simp only [resolve_eq_error_iff, reduceCtorEq, and_false, exists_false, or_false, and_true, nonBlank?_eq_none_iff,
    trim_eq_nil_iff]

/-- The name is invalid if it is not blank and its trimmed text is no collection's; the refusal quotes that text. -/
theorem resolve_eq_invalidName_iff {subject : Subject} {name : Option String} {text : String} :
    resolve subject name = .error (.invalidName subject text) ↔ ∃ n, name = some n ∧
      (∃ c ∈ n.toList, isBlank c = false) ∧ ¬ IsCollectionText (trim n.toList) ∧ text = trimmed n := by
  simp only [resolve_eq_error_iff, reduceCtorEq, and_false, false_or, nonBlank?_eq_some_iff, isBlankText_eq_false_iff,
    Refusal.invalidName.injEq, true_and, ← isCollection_iff, Bool.not_eq_true, and_assoc]

/-- **Every name resolves to a constant or is refused**, and its text alone decides which. -/
theorem resolvesToConstant (name : Option String) : ResolvesToConstant name where
  accepted := fun _ => exists_resolve_iff
  missing := fun _ => resolve_eq_missingName_iff
  invalid := fun _ _ => resolve_eq_invalidName_iff
  alike := by
    intro entity
    rw [resolve_eq_ok_iff, resolve_eq_ok_iff]
  constant := by
    intro subject entity h
    obtain ⟨n, -, hcollection, rfl⟩ := resolve_eq_ok_iff.mp h
    rw [entityName, String.toList_ofList, trimmed_toList]
    exact isConstant_iff.mp (isConstant_entity hcollection)

end RecordGate
