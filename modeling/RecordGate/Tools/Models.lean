import RecordGate.Files.Lookup
import RecordGate.Json.Printer
import RecordGate.Name.Casing

/-!
# `RecordGate.Tools.Models` — the model files of an application

A model file is a regular file whose name is text and ends in `.rb` behind a stem that is not empty; the base class
of all models does not count. It defines the entity whose name is its stem in camel case. The files are listed in
the order of these names, so the order in a directory does not show.
-/

namespace RecordGate.Tools

open Files Text

/-- An entity, and the file that defines it. -/
structure ModelFile where
  name : String
  file : String
  deriving DecidableEq, Repr

/-- What the name of a model file ends in. -/
def modelExtension : List Char :=
  ['.', 'r', 'b']

/-- The file of the base class of all models. -/
def baseClassFile : String :=
  "application_record.rb"

/-- What precedes the extension in the name of a model file. -/
def modelStem? (file : List Char) : Option (List Char) :=
  let stem := file.take (file.length - modelExtension.length)
  if !stem.isEmpty && file.drop stem.length == modelExtension then some stem else none

/-- The model that a directory entry defines. -/
def modelFile? (entry : FileName × Node) : Option ModelFile :=
  if entry.2.isFile then
    (Utf8.decode? entry.1).bind fun file =>
      if file == baseClassFile then none
      else (modelStem? file.toList).map fun stem => ⟨String.ofList (Name.camel stem), file⟩
  else none

/-- Whether `a` is listed no later than `b`. -/
def ModelFile.precedes (a b : ModelFile) : Bool :=
  !decide (b.name < a.name)

/-- The models that a directory's entries define, in the order of their names. -/
def modelFiles (entries : List (FileName × Node)) : List ModelFile :=
  (entries.filterMap modelFile?).mergeSort ModelFile.precedes

/-- The listing of a directory's models. -/
def modelListing (directory : String) (models : List ModelFile) : String :=
  Json.pretty (.object [("models_dir", .string directory),
    ("models", .array (models.map fun m => .object [("name", .string m.name), ("file", .string m.file)]))])

/-- The text for a directory that cannot be read. -/
def unreadable (directory : String) (failure : Failure) : String :=
  "Error: Failed to read models directory " ++ directory ++ ": " ++ failure.message

/-- The text for an entry that cannot be read, in a directory that can. -/
def unreadableEntry (failure : Failure) : String :=
  "Error: " ++ failure.message

end RecordGate.Tools
