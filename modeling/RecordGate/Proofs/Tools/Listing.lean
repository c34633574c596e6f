import Mathlib.Data.List.Nodup
import RecordGate.Proofs.Json.RoundTrip
import RecordGate.Proofs.Text.Utf8
import RecordGate.Tools.Service

/-!
# `RecordGate.Proofs.Tools.Listing` — which files are listed as models

An entry of a directory defines a model if it is a regular file whose name is a text with the extension `rb`, other
than that of the base class (`Defines`). The listing shows the model of every such entry and nothing else, in the order
of the models' names, so that the order of the entries is not seen as long as no two models have the same name
(`listsModels`).

What an entry defines is found by a look at its name alone, in the form of octets. The octets of a name are those of one
text at most, so different entries define different files (`Defines.name`).

A client gets the listing as a text. The directory and the models can be read back from it (`parse?_modelListing`).
-/

namespace RecordGate.Tools

open Files Text

/-! ## Entries that define models -/

/-- **The stem and the extension of a name** are what stands before and behind its last dot. A name that only starts with
    a dot has neither. -/
structure HasExtension (file stem extension : String) : Prop where
  eq : file = stem ++ "." ++ extension
  stem_ne : stem ≠ ""
  no_dot : '.' ∉ extension.toList

/-- **A directory entry defines a model.** -/
structure Defines (entry : FileName × Node) (m : ModelFile) : Prop where
  /-- The entry is a regular file itself, not a link to one. -/
  regular : entry.2.isFile = true
  /-- Its name is the text that the model shows as its file. -/
  name : entry.1 = Utf8.encode m.file
  /-- The file has the extension, and the model is named by the stem in camel case. -/
  stem : ∃ stem, HasExtension m.file stem "rb" ∧ m.name = Name.camelCase stem
  /-- The file is not that of the base class. -/
  notBase : m.file ≠ "application_record.rb"

/-! ## Stems -/

theorem toList_append_extension (stem : String) : (stem ++ ".rb").toList = stem.toList ++ modelExtension := by
  rw [String.toList_append]
  rfl

/-- A file of a model is a stem that is not empty and the extension. -/
theorem modelStem?_eq_some_iff {file stem : List Char} :
    modelStem? file = some stem ↔ file = stem ++ modelExtension ∧ stem ≠ [] := by
  unfold modelStem?
  simp only [Option.ite_none_right_eq_some, Bool.and_eq_true, Bool.not_eq_true', List.isEmpty_eq_false_iff, beq_iff_eq,
    Option.some.injEq]
  constructor
  · rintro ⟨⟨hne, hdrop⟩, rfl⟩
    refine ⟨?_, hne⟩
    have hlength : (file.take (file.length - modelExtension.length)).length = file.length - modelExtension.length := by
      rw [List.length_take]
      omega
    rw [hlength] at hdrop
    exact (List.take_append_drop _ file).symm.trans (congrArg _ hdrop)
  · rintro ⟨rfl, hne⟩
    have hlength : (stem ++ modelExtension).length - modelExtension.length = stem.length := by
      rw [List.length_append, Nat.add_sub_cancel]
    rw [hlength, List.take_left, List.drop_left]
    exact ⟨⟨hne, rfl⟩, rfl⟩

example : modelStem? ".rb".toList = none := by decide

example : modelStem? "a.b.rb".toList = some "a.b".toList := by decide

theorem append_dot_append (stem : String) : stem ++ "." ++ "rb" = stem ++ ".rb" :=
  String.append_assoc

/-- The stem that is read off a file is the one in front of its extension. -/
theorem hasExtension_iff {file stem : String} :
    HasExtension file stem "rb" ↔ modelStem? file.toList = some stem.toList := by
  rw [modelStem?_eq_some_iff, ← toList_append_extension, String.toList_inj, ne_eq, String.toList_eq_nil_iff,
    ← append_dot_append]
  constructor
  · rintro ⟨hfile, hstem, -⟩
    exact ⟨hfile, hstem⟩
  · rintro ⟨hfile, hstem⟩
    exact ⟨hfile, hstem, by decide⟩

theorem hasExtension_append {stem : String} (h : stem ≠ "") : HasExtension (stem ++ ".rb") stem "rb" where
  eq := (append_dot_append stem).symm
  stem_ne := h
  no_dot := by decide

/-- A file has one stem. -/
theorem HasExtension.unique {file stem stem' : String} (h : HasExtension file stem "rb")
    (h' : HasExtension file stem' "rb") : stem = stem' := by
  have hsome := (hasExtension_iff.mp h).symm.trans (hasExtension_iff.mp h')
  exact String.toList_inj.mp (Option.some.inj hsome)

/-- **What is found in an entry is what it defines.** -/
theorem modelFile?_eq_some_iff {entry : FileName × Node} {m : ModelFile} :
    modelFile? entry = some m ↔ Defines entry m := by
  unfold modelFile?
  simp only [Option.ite_none_right_eq_some, Option.bind_eq_some_iff, Option.ite_none_left_eq_some,
    Option.map_eq_some_iff, Utf8.decode?_eq_some_iff, beq_iff_eq]
  constructor
  · rintro ⟨hregular, file, hname, hbase, stem, hstem, rfl⟩
    refine ⟨hregular, hname, ⟨String.ofList stem, ?_, ?_⟩, hbase⟩
    · rw [hasExtension_iff, String.toList_ofList]
      exact hstem
    · rw [Name.camelCase, String.toList_ofList]
  · rintro ⟨hregular, hname, ⟨stem, hstem, hcamel⟩, hbase⟩
    exact ⟨hregular, m.file, hname, hbase, stem.toList, hasExtension_iff.mp hstem, by rw [← Name.camelCase, ← hcamel]⟩

instance (entry : FileName × Node) (m : ModelFile) : Decidable (Defines entry m) :=
  decidable_of_iff _ modelFile?_eq_some_iff

/-! ## Lists of models -/

section

variable {entries : List (FileName × Node)}

/-- The listed models are those that an entry of the directory defines. -/
theorem mem_modelFiles_iff {m : ModelFile} : m ∈ modelFiles entries ↔ ∃ entry ∈ entries, Defines entry m := by
  unfold modelFiles
  simp only [List.mem_mergeSort, List.mem_filterMap, modelFile?_eq_some_iff]

/-- An entry is listed once for each time that it stands in the directory. -/
theorem count_modelFiles (m : ModelFile) :
    (modelFiles entries).count m = entries.countP fun entry => decide (Defines entry m) := by
  unfold modelFiles
  rw [(List.mergeSort_perm _ _).count_eq, List.count_filterMap]
  congr 1
  funext entry
  rw [Bool.eq_iff_iff, beq_iff_eq, decide_eq_true_eq, modelFile?_eq_some_iff]

/-- **Entries of different names define different files.** -/
theorem nodup_file_modelFiles (h : (entries.map (·.1)).Nodup) : ((modelFiles entries).map (·.file)).Nodup := by
  unfold modelFiles
  rw [((List.mergeSort_perm _ _).map _).nodup_iff, List.Nodup, List.pairwise_map, List.pairwise_filterMap]
  refine (List.pairwise_map.mp h).imp fun hne m hm m' hm' hfile => hne ?_
  rw [(modelFile?_eq_some_iff.mp hm).name, (modelFile?_eq_some_iff.mp hm').name, hfile]

theorem precedes_iff {a b : ModelFile} : a.precedes b = true ↔ a.name ≤ b.name := by
  unfold ModelFile.precedes
  rw [Bool.not_eq_true', decide_eq_false_iff_not, String.not_lt]

/-- The listed models stand in the order of their names. -/
theorem pairwise_modelFiles : (modelFiles entries).Pairwise fun a b => a.name ≤ b.name := by
  have htrans : ∀ a b c : ModelFile, a.precedes b = true → b.precedes c = true → a.precedes c = true := by
    intro a b c
    simp only [precedes_iff]
    exact String.le_trans
  have htotal : ∀ a b : ModelFile, (a.precedes b || b.precedes a) = true := by
    intro a b
    rw [Bool.or_eq_true, precedes_iff, precedes_iff]
    exact String.le_total a.name b.name
  exact (List.pairwise_mergeSort htrans htotal _).imp precedes_iff.mp

/-- **The order of the entries is not seen** where no two models have the same name. -/
theorem modelFiles_perm {entries' : List (FileName × Node)} (h : entries.Perm entries')
    (hnodup : ((modelFiles entries).map (·.name)).Nodup) : modelFiles entries' = modelFiles entries := by
  have hperm : (modelFiles entries).Perm (modelFiles entries') :=
    (List.mergeSort_perm _ _).trans ((h.filterMap modelFile?).trans (List.mergeSort_perm _ _).symm)
  refine (List.Perm.eq_of_pairwise ?_ pairwise_modelFiles pairwise_modelFiles hperm).symm
  intro a b ha hb hab hba
  exact List.inj_on_of_nodup_map hnodup ha (hperm.mem_iff.mpr hb) (String.le_antisymm hab hba)

end

/-! ## Listings -/

/-- **The listing of a directory** with these entries. -/
structure ListsModels (entries : List (FileName × Node)) : Prop where
  /-- It shows what the entries define, and nothing else. -/
  mem : ∀ m, m ∈ modelFiles entries ↔ ∃ entry ∈ entries, Defines entry m
  /-- It shows each model as often as there are entries that define it. -/
  count : ∀ m, (modelFiles entries).count m = entries.countP fun entry => decide (Defines entry m)
  /-- This is once, as the names of a directory are distinct: not even a file is shown twice. -/
  once : (entries.map (·.1)).Nodup → ((modelFiles entries).map (·.file)).Nodup
  /-- The names ascend. -/
  ascending : (modelFiles entries).Pairwise fun a b => a.name ≤ b.name
  /-- If they are distinct, the entries may stand in any order. -/
  independent : ∀ entries', entries.Perm entries' → ((modelFiles entries).map (·.name)).Nodup →
    modelFiles entries' = modelFiles entries
  /-- A client who asks for the models in this directory gets this listing. -/
  shown : ∀ {σ : Type} (s : Settings) (around : Surroundings σ) (state : σ),
    around.readDirectory state s.modelsDirectory = .ok (entries.map .ok) →
    (s.perform around .list state).1 = ⟨modelListing s.modelsDirectory (modelFiles entries), false⟩
  /-- The client reads the directory and the models in it, each with its name and its file, and nothing else. -/
  read : ∀ directory, Json.parse? (modelListing directory (modelFiles entries)) = some (.object
    [("models_dir", .string directory), ("models", .array ((modelFiles entries).map fun m =>
      .object [("name", .string m.name), ("file", .string m.file)]))])

/-- A directory that is read in full is answered with the listing of its models. -/
theorem ofListing_ok (directory : String) (entries : List (FileName × Node)) :
    ToolResult.ofListing directory (.ok (entries.map .ok)) = ⟨modelListing directory (modelFiles entries), false⟩ := by
  have hread : (entries.map (Except.ok : _ → Except Failure (FileName × Node))).mapM id = .ok entries := by
    rw [List.mapM_map]
    exact List.mapM_pure.trans (congrArg _ (List.map_id entries))
  simp only [ToolResult.ofListing, hread]

/-- **A listing is read back** from its text. -/
theorem parse?_modelListing (directory : String) (models : List ModelFile) :
    Json.parse? (modelListing directory models) = some (.object
      [("models_dir", .string directory), ("models", .array (models.map fun m =>
        .object [("name", .string m.name), ("file", .string m.file)]))]) := by
  refine Json.parse?_pretty (.object ?_)
  intro member hmember
  rcases List.mem_cons.mp hmember with rfl | hmember
  · exact .string directory
  · obtain rfl := List.mem_singleton.mp hmember
    refine .array ?_
    intro item hitem
    obtain ⟨m, -, rfl⟩ := List.mem_map.mp hitem
    refine .object ?_
    intro field hfield
    rcases List.mem_cons.mp hfield with rfl | hfield
    · exact .string m.name
    · obtain rfl := List.mem_singleton.mp hfield
      exact .string m.file

/-- **Every directory is listed** with its model files, each once, in the order of their names. -/
theorem listsModels (entries : List (FileName × Node)) : ListsModels entries where
  mem := fun _ => mem_modelFiles_iff
  count := count_modelFiles
  once := nodup_file_modelFiles
  ascending := pairwise_modelFiles
  independent := fun _ => modelFiles_perm
  shown := by
    intro σ s around state hread
    simp only [Settings.perform, hread, ofListing_ok]
  read := fun directory => parse?_modelListing directory (modelFiles entries)

end RecordGate.Tools
