import RecordGate.Proofs.Evaluation.Environment
import RecordGate.Proofs.Gate.Accounting

/-!
# `RecordGate.Proofs.Gate.Sandbox` — what a runner is handed

An accepted call hands exactly one invocation to its runner. Whatever the call is, the invocation runs the
configured program with a single text, in the root of the application, with the variables that surround the gate
except for the manifest, which is the application's own (`sandboxed_of_accepted`).
-/

namespace RecordGate

open Text Name

/-! ## What is handed to a runner -/

/-- A runner that also notes down what it is handed. -/
def Runner.noting {σ : Type} (run : Runner σ) : Runner (σ × List Invocation) := fun i s =>
  ((run i s.1).1, ((run i s.1).2, s.2 ++ [i]))

/-- The call hands this invocation to its runner, whichever that is, and no other. -/
def Gate.Hands (g : Gate) (ambient : List (String × String)) (call : Call) (i : Invocation) : Prop :=
  ∀ {σ : Type} (run : Runner σ) (s : σ) (noted : List Invocation),
    (g.perform ambient run.noting call (s, noted)).2.2 = noted ++ [i]

/-- The name stands for the entity, and it does so without the white space that may surround it. -/
def StandsFor (subject : Subject) (name : Option String) (entity : String) : Prop :=
  resolve subject name = .ok entity ∧ ∀ a n b : String, name = some (a ++ n ++ b) → isBlankText a = true →
    isBlankText b = true → resolve subject (some n) = .ok entity

/-- **An invocation is sandboxed** when the gate and the call determine all of it but the inherited variables. -/
structure Sandboxed (g : Gate) (ambient : List (String × String)) (call : Call) (i : Invocation) : Prop where
  /-- The configured program is run. -/
  program : i.program = g.evaluator
  /-- It gets two arguments: the option that evaluates a text, and the text. -/
  arguments : i.arguments = ["-e", i.script]
  /-- It runs in the root, as that is written. -/
  directory : i.directory = g.root
  /-- It has the variables around the gate, and the manifest. -/
  names : ∀ key : String, key ∈ i.vars.names ↔ key ∈ ambient.map (·.1) ∨ key = "BUNDLE_GEMFILE"
  /-- It has each of them once. -/
  nodup : i.vars.names.Nodup
  /-- The manifest is the application's own, whatever the variables around the gate say. -/
  manifest : i.vars.get? "BUNDLE_GEMFILE" = some (Files.Path.join g.root "Gemfile")
  /-- Every other variable has the last of the values around the gate. -/
  inherited : ∀ key : String, key ≠ "BUNDLE_GEMFILE" → i.vars.get? key = ambient.reverse.lookup key
  /-- A selection evaluates its query. -/
  select : ∀ request : Request, call = .select request →
    ∃ query, request.compile = .ok query ∧ i.script = Script.ofQuery query
  /-- A description of a table evaluates the text that prints the columns of an entity: of that which the name stands
      for. -/
  describeTable : ∀ name : Option String, call = .describeTable name →
    ∃ entity, StandsFor .table name entity ∧ i.script =
      "require './config/environment'; puts " ++ entity ++
        ".columns.map \x7b |c| \x7b name: c.name, type: c.type.to_s, sql_type: c.sql_type, null: c.null, " ++
        "default: c.default, limit: c.limit, precision: c.precision, scale: c.scale \x7d \x7d.inspect"
  /-- A description of a model evaluates the text that prints all about an entity: about that which the name stands
      for. -/
  describeModel : ∀ name : Option String, call = .describeModel name →
    ∃ entity, StandsFor .model name entity ∧ i.script =
      "require './config/environment'; m = " ++ entity ++
        "; puts(\x7b name: m.name, table_name: m.table_name, primary_key: m.primary_key, " ++
        "columns: m.columns.map \x7b |c| \x7b name: c.name, type: c.type.to_s, sql_type: c.sql_type, null: c.null, " ++
        "default: c.default \x7d \x7d, " ++
        "associations: m.reflect_on_all_associations.map \x7b |a| \x7b name: a.name, " ++
        "type: a.class.name.demodulize, class_name: a.class_name, foreign_key: a.foreign_key \x7d \x7d, " ++
        "validations: m.validators.map \x7b |v| \x7b type: v.class.name.demodulize, attributes: v.attributes, " ++
        "options: v.options.except(:class) \x7d \x7d \x7d.inspect)"
  /-- The catalogue evaluates the text that prints every model. -/
  catalogue : call = .catalogue → i.script =
    "require './config/environment'; Rails.application.eager_load!; " ++
      "puts ApplicationRecord.descendants.sort_by(&:name).map \x7b |m| \x7b name: m.name, " ++
      "table_name: m.table_name, columns: m.column_names, " ++
      "associations: m.reflect_on_all_associations.map \x7b |a| \x7b name: a.name, " ++
      "type: a.class.name.demodulize \x7d \x7d \x7d \x7d.inspect"

/-! ## Environments -/

section

variable (root : String) (ambient : List (String × String))

/-- An environment has the variables around it, and the manifest. -/
theorem mem_names_ofRoot {key : String} :
    key ∈ (Environment.ofRoot root ambient).vars.names ↔
      key ∈ ambient.map (·.1) ∨ key = manifestVariable := by
  unfold Environment.ofRoot
  rw [Variables.mem_names_set, Variables.mem_names_ofList]

/-- An environment has each variable once, also if the list around it names one twice. -/
theorem nodup_names_ofRoot : (Environment.ofRoot root ambient).vars.names.Nodup :=
  Variables.nodup_names_set (Variables.nodup_names_ofList ambient) _ _

/-- **The manifest is set last**, so nothing around the environment overrides it; every other variable has its last
    value. -/
theorem get?_ofRoot (key : String) :
    (Environment.ofRoot root ambient).vars.get? key =
      if key = manifestVariable then some (Files.Path.join root manifestFile) else ambient.reverse.lookup key := by
  unfold Environment.ofRoot
  rw [Variables.get?_set, Variables.get?_ofList]

end

/-! ## Scripts -/

/-- A selection is planned for its query. -/
theorem exists_script_of_select {request : Request} {plan : Plan} (h : (Call.select request).plan = .ok plan) :
    ∃ query, request.compile = .ok query ∧ plan.script = Script.ofQuery query := by
  simp only [Call.plan] at h
  cases hq : request.compile with
  | error refusal =>
    rw [hq] at h
    exact absurd h (by simp)
  | ok query =>
    rw [hq] at h
    exact ⟨query, rfl, by rw [← Except.ok.inj h]⟩

/-- A name resolves the same with white space around it and without. -/
theorem standsFor_of_resolve {subject : Subject} {name : Option String} {entity : String}
    (h : resolve subject name = .ok entity) : StandsFor subject name entity := by
  refine ⟨h, ?_⟩
  rintro a n b rfl ha hb
  rw [← resolve_append_append subject ha hb]
  exact h

/-- **A description is planned for the entity that its name stands for.** -/
theorem exists_standsFor {subject : Subject} {name : Option String} {plan : Plan} {planFor : String → Plan}
    (h : (match resolve subject name with
      | .error refusal => .error refusal
      | .ok entity => .ok (planFor entity)) = Except.ok plan) :
    ∃ entity, StandsFor subject name entity ∧ plan.script = (planFor entity).script := by
  cases hname : resolve subject name with
  | error refusal =>
    rw [hname] at h
    exact absurd h (by simp)
  | ok entity =>
    rw [hname] at h
    exact ⟨entity, standsFor_of_resolve hname, by rw [← Except.ok.inj h]⟩

/-! ## Calls -/

section

variable {g : Gate} {ambient : List (String × String)} {call : Call} {plan : Plan}

/-- A planned call hands the invocation of its plan to the runner. -/
theorem hands_of_plan (h : call.plan = .ok plan) : g.Hands ambient call (g.invocation ambient plan) := by
  intro σ run s noted
  rw [perform_of_plan h]
  rfl

/-- **The invocation of a plan is sandboxed.** -/
theorem sandboxed_of_plan (h : call.plan = .ok plan) :
    Sandboxed g ambient call (g.invocation ambient plan) where
  program := rfl
  arguments := rfl
  directory := rfl
  names := fun _ => mem_names_ofRoot g.root ambient
  nodup := nodup_names_ofRoot g.root ambient
  manifest := get?_ofRoot g.root ambient manifestVariable
  inherited := by
    intro key hkey
    have hne : key ≠ manifestVariable := hkey
    show (Environment.ofRoot g.root ambient).vars.get? key = _
    rw [get?_ofRoot, if_neg hne]
  select := by
    rintro request rfl
    exact exists_script_of_select h
  describeTable := by
    rintro name rfl
    exact exists_standsFor h
  describeModel := by
    rintro name rfl
    exact exists_standsFor h
  catalogue := by
    rintro rfl
    exact congrArg Plan.script (Except.ok.inj h).symm

/-- **Every accepted call hands one invocation to the runner, and that is sandboxed.** -/
theorem sandboxed_of_accepted (h : call.isAccepted = true) :
    ∃ i : Invocation, g.Hands ambient call i ∧ Sandboxed g ambient call i := by
  obtain ⟨plan, hplan⟩ := isAccepted_iff.mp h
  exact ⟨g.invocation ambient plan, hands_of_plan hplan, sandboxed_of_plan hplan⟩

end

/-- Variables of which one is set twice, around the manifest of another application. -/
def foreignVariables : List (String × String) :=
  [("PATH", "/bin"), ("BUNDLE_GEMFILE", "/elsewhere/Gemfile"), ("PATH", "/usr/bin")]

theorem sandboxed_foreignVariables :
    (Call.describeTable (some "\t blog_posts\n")).isAccepted = true ∧
      ∃ i : Invocation,
        Gate.Hands ⟨"/srv/app", "ruby"⟩ foreignVariables (.describeTable (some "\t blog_posts\n")) i ∧
        Sandboxed ⟨"/srv/app", "ruby"⟩ foreignVariables (.describeTable (some "\t blog_posts\n")) i :=
  ⟨by decide +kernel, sandboxed_of_accepted (by decide +kernel)⟩

end RecordGate
