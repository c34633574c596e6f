import RecordGate.Query.Expression

/-!
# `RecordGate.Evaluation.Script` — the program texts handed to an evaluator

Each program first loads the application, then prints one value. Records are printed in their inspected form, a
reduced value as it is. The texts of the fixed programs only take the name of an entity.
-/

namespace RecordGate.Script

/-- Loads the application. -/
def prelude : String :=
  "require './config/environment'"

/-- Evaluates a query. -/
def ofQuery (q : Query) : String :=
  prelude ++ "; puts " ++ q.expression ++ (if q.isScalar then "" else ".inspect")

/-- Prints what is known of an entity's columns. -/
def columns (entity : String) : String :=
  prelude ++ "; puts " ++ entity ++
    ".columns.map \x7b |c| \x7b name: c.name, type: c.type.to_s, sql_type: c.sql_type, null: c.null, " ++
    "default: c.default, limit: c.limit, precision: c.precision, scale: c.scale \x7d \x7d.inspect"

/-- Prints an entity's key, columns, associations and validators. -/
def model (entity : String) : String :=
  prelude ++ "; m = " ++ entity ++
    "; puts(\x7b name: m.name, table_name: m.table_name, primary_key: m.primary_key, " ++
    "columns: m.columns.map \x7b |c| \x7b name: c.name, type: c.type.to_s, sql_type: c.sql_type, null: c.null, " ++
    "default: c.default \x7d \x7d, " ++
    "associations: m.reflect_on_all_associations.map \x7b |a| \x7b name: a.name, " ++
    "type: a.class.name.demodulize, class_name: a.class_name, foreign_key: a.foreign_key \x7d \x7d, " ++
    "validations: m.validators.map \x7b |v| \x7b type: v.class.name.demodulize, attributes: v.attributes, " ++
    "options: v.options.except(:class) \x7d \x7d \x7d.inspect)"

/-- Prints every model with its table, columns and associations. -/
def catalogue : String :=
  prelude ++ "; Rails.application.eager_load!; " ++
    "puts ApplicationRecord.descendants.sort_by(&:name).map \x7b |m| \x7b name: m.name, " ++
    "table_name: m.table_name, columns: m.column_names, " ++
    "associations: m.reflect_on_all_associations.map \x7b |a| \x7b name: a.name, " ++
    "type: a.class.name.demodulize \x7d \x7d \x7d \x7d.inspect"

end RecordGate.Script
