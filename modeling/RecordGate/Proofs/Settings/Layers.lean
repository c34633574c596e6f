import RecordGate.Proofs.Gate.Envelopes
import RecordGate.Proofs.Settings.CommandLine

/-!
# `RecordGate.Proofs.Settings.Layers` — each setting is layered on its own

A setting has a default, over which a variable and a flag are laid (`Layered`). The variable is trimmed and skipped when
nothing is left of it, while the flag is taken as it is given, even if it is empty. The three settings are layered in the
same way, each from its own variable and flag, so that no other variable or flag has a say in it.

Only then are settings combined: the directory of the model files is below the root that is found in the end, whichever
layers the two come from (`Located`), and it is this root in which evaluators run (`layersApart_configured`).
-/

namespace RecordGate

open Text CommandLine

/-! ## Layers -/

/-- **The value that a setting takes** from its default, the value of its variable and that of its flag. -/
inductive Layered (fallback : String) (assigned given : Option String) : String → Prop where
  /-- A flag is taken as it is given. -/
  | ofFlag {value : String} (h : given = some value) : Layered fallback assigned given value
  /-- Without a flag, a variable is taken without the white space around it, if anything is left. -/
  | ofVariable {text : String} (missing : given = none) (h : assigned = some text) (left : trimmed text ≠ "") :
      Layered fallback assigned given (trimmed text)
  /-- Without either, the default is taken. -/
  | ofDefault (missing : given = none) (blank : ∀ text, assigned = some text → trimmed text = "") :
      Layered fallback assigned given fallback

section

variable {fallback v w : String} {assigned given : Option String}

/-- **The layers decide**: they leave one value only. -/
theorem Layered.unique (hv : Layered fallback assigned given v) (hw : Layered fallback assigned given w) : v = w := by
  cases hv with
  | ofFlag h =>
    cases hw with
    | ofFlag h' => exact Option.some.inj (h.symm.trans h')
    | ofVariable missing _ _ => exact absurd (h.symm.trans missing) (by simp)
    | ofDefault missing _ => exact absurd (h.symm.trans missing) (by simp)
  | ofVariable missing h left =>
    cases hw with
    | ofFlag h' => exact absurd (h'.symm.trans missing) (by simp)
    | ofVariable _ h' _ => exact congrArg trimmed (Option.some.inj (h.symm.trans h'))
    | ofDefault _ blank => exact absurd (blank _ h) left
  | ofDefault missing blank =>
    cases hw with
    | ofFlag h => exact absurd (h.symm.trans missing) (by simp)
    | ofVariable _ h left => exact absurd (blank _ h) left
    | ofDefault _ _ => rfl

theorem trimmed_eq_empty {s : String} (h : trim s.toList = []) : trimmed s = "" := by
  unfold trimmed
  rw [h]

/-- A setting's three layers: the flag, the variable unless it is blank, and the fallback. -/
theorem layered_getD (fallback : String) (assigned given : Option String) :
    Layered fallback assigned given (given.getD (((nonBlank? assigned).map trimmed).getD fallback)) := by
  cases given with
  | some value => exact .ofFlag rfl
  | none =>
    cases hassigned : nonBlank? assigned with
    | some text =>
      obtain ⟨h, left⟩ := nonBlank?_eq_some_iff.mp hassigned
      exact .ofVariable rfl h (trimmed_ne_empty left)
    | none => exact .ofDefault rfl fun text h => trimmed_eq_empty (nonBlank?_eq_none_iff.mp hassigned text h)

end

/-! ## Paths -/

/-- **Where a path is** that may be written relative to a root. -/
inductive Located (root path : String) : String → Prop where
  /-- An absolute path is where it says. -/
  | absolute (slash : path.toList.head? = some '/') : Located root path path
  /-- A relative path is below the root, which may have the slash between them already. -/
  | below (relative : path.toList.head? ≠ some '/') (ends : root = "" ∨ root.toList.getLast? = some '/') :
      Located root path (root ++ path)
  /-- If it has not, the slash is put there. -/
  | joined (relative : path.toList.head? ≠ some '/') (ne_empty : root ≠ "")
      (ends : root.toList.getLast? ≠ some '/') : Located root path (root ++ "/" ++ path)

/-- A path is taken from the root it is configured with, unless it is absolute. -/
theorem located_join (root path : String) : Located root path (Files.Path.join root path) := by
  unfold Files.Path.join Files.Path.isAbsolute
  split
  · rename_i slash
    exact .absolute (beq_iff_eq.mp slash)
  · rename_i relative
    rw [beq_iff_eq] at relative
    split
    · rename_i ends
      rw [Bool.or_eq_true, String.isEmpty_iff, beq_iff_eq] at ends
      exact .below relative ends
    · rename_i ends
      rw [Bool.or_eq_true, String.isEmpty_iff, beq_iff_eq, not_or] at ends
      exact .joined relative ends.1 ends.2

/-! ## Settings -/

/-- The settings of a server that is started in a directory, with these variables and flags. -/
def Settings.configured (directory : String) (get? : String → Option String) (given : Flags) : Settings :=
  (Settings.ofVariables directory get?).withFlags given

/-- The variable that is overridden by a flag. -/
def CommandLine.ValueFlag.variableName : ValueFlag → String
  | .projectsRoot => "RECORDBRIDGE_PROJECTS_ROOT"
  | .modelsPath => "RECORDBRIDGE_MODELS_PATH"
  | .evaluator => "RECORDBRIDGE_EVALUATOR"

/-- The default of the setting that a flag is for. -/
def CommandLine.ValueFlag.fallback (directory : String) : ValueFlag → String
  | .projectsRoot => directory
  | .modelsPath => "app/models"
  | .evaluator => "ruby"

/-- The setting that a flag is for. -/
def CommandLine.ValueFlag.setting (s : Settings) : ValueFlag → String
  | .projectsRoot => s.projectsRoot
  | .modelsPath => s.modelsPath
  | .evaluator => s.evaluator

section

variable (directory : String) (get? : String → Option String) (given : Flags)

/-- **The settings of a server are layered apart from each other.** -/
structure LayersApart : Prop where
  /-- The value of a flag is what the command line says. -/
  written : ∀ arguments, CommandLine.flags arguments = .ok given → ∀ (flag : ValueFlag) (value : String),
    flag.get? given = some value ↔ Writes flag value arguments
  /-- Each setting is layered from its default, its variable and its flag. -/
  layered : ∀ flag : ValueFlag, Layered (flag.fallback directory) (get? flag.variableName) (flag.get? given)
    (flag.setting (.configured directory get? given))
  /-- No other variable or flag has a say in it. -/
  own : ∀ (flag : ValueFlag) (get?' : String → Option String) (given' : Flags),
    get?' flag.variableName = get? flag.variableName → flag.get? given' = flag.get? given →
      flag.setting (.configured directory get?' given') = flag.setting (.configured directory get? given)
  /-- How much is logged has no say in any. -/
  verbose : ∀ verbose : Bool,
    Settings.configured directory get? { given with verbose } = .configured directory get? given
  /-- The model files are at the path that is found in the end, below the root that is found in the end. -/
  models : Located (Settings.configured directory get? given).projectsRoot
    (Settings.configured directory get? given).modelsPath (Settings.configured directory get? given).modelsDirectory
  /-- So the root of a flag is also that of the path of a variable. -/
  relocated : ∀ root text : String, given.projectsRoot = some root → given.modelsPath = none →
    get? "RECORDBRIDGE_MODELS_PATH" = some text → trimmed text ≠ "" →
      Located root (trimmed text) (Settings.configured directory get? given).modelsDirectory
  /-- The gate has the root and the evaluator that are found in the end. -/
  gate : (Settings.configured directory get? given).gate =
    ⟨(Settings.configured directory get? given).projectsRoot, (Settings.configured directory get? given).evaluator⟩
  /-- Every call that starts a program starts that evaluator in that root. -/
  started : ∀ (ambient : List (String × String)) (call : Call) (i : Invocation),
    (Settings.configured directory get? given).gate.Hands ambient call i →
      i.program = (Settings.configured directory get? given).evaluator ∧
        i.directory = (Settings.configured directory get? given).projectsRoot

/-- Every configured setting is layered, with its own flag, variable and fallback. -/
theorem layered_configured (flag : ValueFlag) : Layered (flag.fallback directory) (get? flag.variableName)
    (flag.get? given) (flag.setting (.configured directory get? given)) := by
  cases flag with
  | projectsRoot => exact layered_getD directory (get? "RECORDBRIDGE_PROJECTS_ROOT") given.projectsRoot
  | modelsPath => exact layered_getD "app/models" (get? "RECORDBRIDGE_MODELS_PATH") given.modelsPath
  | evaluator => exact layered_getD "ruby" (get? "RECORDBRIDGE_EVALUATOR") given.evaluator

/-- Whatever a runner is handed is sandboxed. -/
theorem sandboxed_of_hands {g : Gate} {ambient : List (String × String)} {call : Call} {i : Invocation}
    (h : g.Hands ambient call i) : Sandboxed g ambient call i := by
  cases hplan : call.plan with
  | error refusal =>
    -- a refused call hands over nothing, also to a runner that does nothing
    have hnone : ¬ g.Gets ambient (fun _ s => (.error .notFound, s)) call () (.error .notFound) :=
      not_gets_of_refusal hplan _
    exact absurd ⟨i, h, rfl⟩ hnone
  | ok plan =>
    rw [h.unique (hands_of_plan hplan)]
    exact sandboxed_of_plan hplan

/-- **Settings are layered apart from each other**, whatever the directory, the variables and the flags. -/
theorem layersApart_configured : LayersApart directory get? given where
  written := fun _ h _ _ => get?_eq_some_iff_writes h
  layered := layered_configured directory get? given
  own := by
    intro flag get?' given' hvariable hflag
    have hlayered := layered_configured directory get?' given' flag
    rw [hvariable, hflag] at hlayered
    exact hlayered.unique (layered_configured directory get? given flag)
  verbose := fun _ => rfl
  models := located_join _ _
  relocated := by
    intro root text hroot hpath htext left
    have hflag := layered_configured directory get? given .projectsRoot
    have hvariable := layered_configured directory get? given .modelsPath
    have hr : (Settings.configured directory get? given).projectsRoot = root := hflag.unique (.ofFlag hroot)
    have hm : (Settings.configured directory get? given).modelsPath = trimmed text :=
      hvariable.unique (.ofVariable hpath htext left)
    rw [← hr, ← hm]
    exact located_join _ _
  gate := rfl
  started := by
    intro ambient call i h
    exact ⟨(sandboxed_of_hands h).program, (sandboxed_of_hands h).directory⟩

end

example : Settings.configured "/" (fun _ => some "\t models ") { projectsRoot := some "/srv/ ", evaluator := some "" } =
      ⟨"/srv/ ", "models", ""⟩ ∧
    (⟨"/srv/ ", "models", ""⟩ : Settings).modelsDirectory = "/srv/ /models" := by
  decide +kernel

end RecordGate
