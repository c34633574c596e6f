import RecordGate.Proofs.Gate.Description
import RecordGate.Proofs.Name.Casing
import RecordGate.Proofs.Tools.Listing

/-!
# `RecordGate.Proofs.Tools.ModelNames` — listed models can be described

The listing of models shows the names of files in camel case. A caller who describes a model by such a name gets what
describing it by the file's stem gets, because the stem is recovered from the name (`readBack_of_isLongWord`).
-/

namespace RecordGate

open Text Name

/-- The name `stem` is recovered from its form in camel case, by which its file is listed. -/
structure ReadBack (stem : String) : Prop where
  /-- The words of the name are told apart again. -/
  snakeCase_camelCase : snakeCase (camelCase stem) = stem
  /-- Both forms name the same entity. -/
  entityName_camelCase : entityName (camelCase stem) = entityName stem
  /-- The plan to describe the model does not depend on the form, and there is one. -/
  described : ∃ plan, (Call.describeModel (some stem)).plan = .ok plan ∧
    (Call.describeModel (some (camelCase stem))).plan = .ok plan ∧ plan.script = Script.model (entityName stem)
  /-- A file with this stem is listed by a name under which it is described as under its stem. -/
  listed : ∀ entries, ∀ m ∈ Tools.modelFiles entries, m.file = stem ++ ".rb" →
    m.name = camelCase stem ∧ (Call.describeModel (some m.name)).plan = (Call.describeModel (some stem)).plan
  /-- Every regular file with this stem is listed, but for that of the base class. -/
  reported : ∀ (entries : List (Files.FileName × Files.Node)) (name : Files.FileName) (node : Files.Node),
    (name, node) ∈ entries → node.isFile = true → Utf8.decode? name = some (stem ++ ".rb") →
    stem ++ ".rb" ≠ Tools.baseClassFile → ⟨camelCase stem, stem ++ ".rb"⟩ ∈ Tools.modelFiles entries

/-! ## Listings -/

section

open Tools

variable {entries : List (Files.FileName × Files.Node)} {stem : String}

/-- **What a listed file is called**: its stem in camel case. -/
theorem name_of_mem_modelFiles (hstem : stem ≠ "") {m : ModelFile} (hm : m ∈ modelFiles entries)
    (hfile : m.file = stem ++ ".rb") : m.name = camelCase stem := by
  obtain ⟨entry, -, hdefines⟩ := mem_modelFiles_iff.mp hm
  obtain ⟨stem', hextension, hname⟩ := hdefines.stem
  rw [hfile] at hextension
  rw [hname, hextension.unique (hasExtension_append hstem)]

/-- A file with the extension is listed under the camel case of its stem, unless it is the base class's. -/
theorem mem_modelFiles_of_mem (hstem : stem ≠ "") {name : Files.FileName} {node : Files.Node}
    (hmem : (name, node) ∈ entries) (hnode : node.isFile = true) (hname : Utf8.decode? name = some (stem ++ ".rb"))
    (hbase : stem ++ ".rb" ≠ baseClassFile) : ⟨camelCase stem, stem ++ ".rb"⟩ ∈ modelFiles entries := by
  refine mem_modelFiles_iff.mpr ⟨(name, node), hmem, ?_⟩
  exact ⟨hnode, Utf8.decode?_eq_some_iff.mp hname, ⟨stem, hasExtension_append hstem, rfl⟩, hbase⟩

end

/-! ## Stems that are recovered -/

section

variable {stem : String}

/-- A name that is recovered from its form in camel case names the same entity in this form. -/
theorem entityName_camelCase (hparts : ∀ c ∈ stem.toList, isSnakePart c = true)
    (hcamel : isCollection (camelCase stem).toList = true) (hback : snakeCase (camelCase stem) = stem) :
    entityName (camelCase stem) = entityName stem := by
  have hsnake : snake (camelCase stem).toList = stem.toList := by
    have hlist := congrArg String.toList hback
    rwa [snakeCase, String.toList_ofList] at hlist
  have htrim : trim (camelCase stem).toList = (camelCase stem).toList :=
    trim_of_isNamePart (isNamePart_of_isCollection hcamel)
  have htrim' : trim stem.toList = stem.toList :=
    trim_of_isNamePart fun c hc => isNamePart_of_isSnakePart (hparts c hc)
  refine congrArg String.ofList (entity_congr ?_)
  rw [htrim, htrim', hsnake, snake_eq_self fun c hc => snakeChar_eq_self (hparts c hc)]

/-- **A stem that is recovered from its form in camel case** may be replaced by this form. -/
theorem readBack_of_snakeCase (hcollection : isCollection stem.toList = true)
    (hparts : ∀ c ∈ stem.toList, isSnakePart c = true) (hback : snakeCase (camelCase stem) = stem) :
    ReadBack stem := by
  have hstem : stem ≠ "" := by
    rintro rfl
    exact absurd hcollection (by decide)
  have hcamel : isCollection (camelCase stem).toList = true := by
    rw [camelCase, String.toList_ofList]
    exact isCollection_of_isConstant (isConstant_camel_of_isCollection hcollection hparts)
  have hentity : entityName (camelCase stem) = entityName stem := entityName_camelCase hparts hcamel hback
  have hplan := plan_describeModel (resolve_of_isCollection hcollection)
  have hplan' := plan_describeModel (resolve_of_isCollection hcamel)
  rw [hentity] at hplan'
  refine ⟨hback, hentity, ⟨_, hplan, hplan', rfl⟩, ?_, ?_⟩
  · intro entries m hm hfile
    have hname := name_of_mem_modelFiles hstem hm hfile
    exact ⟨hname, by rw [hname, hplan, hplan']⟩
  · intro entries name node hmem hnode hname hbase
    exact mem_modelFiles_of_mem hstem hmem hnode hname hbase

end

/-! ## Stems of long words -/

section

variable {words : List String}

theorem toList_intercalate (words : List String) :
    ("_".intercalate words).toList = ['_'].intercalate (words.map String.toList) := by
  rw [String.toList_intercalate]
  rfl

/-- Long words joined by underscores hold nothing but lowercase letters, digits and underscores. -/
theorem isSnakePart_of_mem_intercalate (h : ∀ w ∈ words, IsLongWord w.toList) :
    ∀ c ∈ ("_".intercalate words).toList, isSnakePart c = true := by
  intro c hc
  cases words with
  | nil => exact absurd hc (by simp)
  | cons w words =>
    rw [toList_intercalate, List.map_cons, intercalate_cons] at hc
    rcases List.mem_append.mp hc with hc | hc
    · exact (h w List.mem_cons_self).isSnakePart c hc
    · obtain ⟨x, hx, hcx⟩ := List.mem_flatMap.mp hc
      obtain ⟨v, hv, rfl⟩ := List.mem_map.mp hx
      rcases List.mem_cons.mp hcx with rfl | hcx
      · rfl
      · exact (h v (List.mem_cons_of_mem w hv)).isSnakePart c hcx

/-- The words of a stem joined by underscores are the name of a collection. -/
theorem isCollection_intercalate (hne : words ≠ []) (h : ∀ w ∈ words, IsLongWord w.toList) :
    isCollection ("_".intercalate words).toList = true := by
  have hparts := isSnakePart_of_mem_intercalate h
  obtain ⟨w, words, rfl⟩ := List.exists_cons_of_ne_nil hne
  obtain ⟨a, d, ds, heq, ha, -⟩ := h w List.mem_cons_self
  rw [toList_intercalate, List.map_cons, intercalate_cons, heq, List.cons_append] at hparts ⊢
  simp only [isCollection, Bool.and_eq_true, List.all_eq_true]
  exact ⟨isLetter_iff.mpr (Or.inl ha), fun c hc => isNamePart_of_isSnakePart (hparts c (List.mem_cons_of_mem a hc))⟩

/-- Long words joined by underscores are recovered from their camel case. -/
theorem snakeCase_camelCase_intercalate (h : ∀ w ∈ words, IsLongWord w.toList) :
    snakeCase (camelCase ("_".intercalate words)) = "_".intercalate words := by
  have hlong : ∀ v ∈ words.map String.toList, IsLongWord v := by
    intro v hv
    obtain ⟨w, hw, rfl⟩ := List.mem_map.mp hv
    exact h w hw
  unfold snakeCase camelCase
  rw [String.toList_ofList, toList_intercalate, snake_camel_intercalate hlong, ← toList_intercalate, String.ofList_toList]

/-- **Names of long words are read back**, and so listed models can be described by the names they are listed by. -/
theorem readBack_of_isLongWord (hne : words ≠ []) (h : ∀ w ∈ words, IsLongWord w.toList) :
    ReadBack ("_".intercalate words) := by
  have hcollection := isCollection_intercalate hne h
  have hparts := isSnakePart_of_mem_intercalate h
  exact readBack_of_snakeCase hcollection hparts (snakeCase_camelCase_intercalate h)

end

/-- A stem with a digit in the middle of a word is read back. -/
theorem readBack_versionedPosts : (["blog", "v2", "posts"] ≠ [] ∧
    ∀ w ∈ ["blog", "v2", "posts"], IsLongWord w.toList) ∧ ReadBack ("_".intercalate ["blog", "v2", "posts"]) := by
  have hwords : ∀ w ∈ ["blog", "v2", "posts"], IsLongWord w.toList := by
    simp only [List.mem_cons, List.not_mem_nil, or_false, forall_eq_or_imp, forall_eq]
    refine ⟨⟨'b', 'l', ['o', 'g'], rfl, rfl, ?_⟩, ⟨'v', '2', [], rfl, rfl, ?_⟩, ⟨'p', 'o', ['s', 't', 's'], rfl, rfl, ?_⟩⟩
    all_goals exact List.all_eq_true.mp (by decide)
  exact ⟨⟨by decide, hwords⟩, readBack_of_isLongWord (by decide) hwords⟩

end RecordGate
