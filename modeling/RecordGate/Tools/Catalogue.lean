import RecordGate.Json.Basic

/-!
# `RecordGate.Tools.Catalogue` — the tools, and how they are announced

There are four tools. Each is announced with its name, what it is for, and a schema of its arguments: an object all
of whose members are optional. The announcements stand in the order of the names.

## Contents
- `Tool` — the tools; `Tool.all`, `Tool.name`, `Tool.ofName?`.
- `Parameter` — an argument, and its schema.
- `Tool.announcement` — what a client is told of a tool.
-/

namespace RecordGate

/-- What clients can call. -/
inductive Tool where
  | describeModel
  | describeTable
  | listModels
  | selectRecords
  deriving DecidableEq, Repr

namespace Tool

/-- All tools, in the order of their names. -/
def all : List Tool :=
  [.describeModel, .describeTable, .listModels, .selectRecords]

/-- The name that clients call a tool by. -/
def name : Tool → String
  | .describeModel => "describe_model"
  | .describeTable => "describe_table"
  | .listModels => "list_models"
  | .selectRecords => "select_records"

/-- The tool of this name. -/
def ofName? (name : String) : Option Tool :=
  all.find? fun tool => tool.name == name

/-- What a tool is for. -/
def description : Tool → String
  | .describeModel =>
    "Describe a model: table name, primary key, columns, associations (name, type, class_name, foreign_key) " ++
      "and validators."
  | .describeTable =>
    "Describe a table: column names, types, SQL types, nullability, defaults, limits, precision and scale."
  | .listModels =>
    "List the models defined in the application's models directory (names usable with select_records after " ++
      "pluralizing to snake_case). Set include_schema to load the application and also get table names, columns " ++
      "and associations."
  | .selectRecords =>
    "Select records through the application's models. Provide the plural snake_case model name plus optional " ++
      "filter_condition (SQL WHERE fragment), order_by, limit, aggregate_statement or count_only. " ++
      "Read-only: mutating SQL is rejected."

/-- The title of the schema of a tool's arguments. -/
def schemaTitle : Tool → String
  | .describeModel => "DescribeModelRequest"
  | .describeTable => "DescribeTableRequest"
  | .listModels => "ListModelsRequest"
  | .selectRecords => "SelectRecordsRequest"

end Tool

/-! ## Parameters -/

/-- What the value of a parameter is. -/
inductive ParameterType where
  | text
  | flag
  | limit
  deriving DecidableEq, Repr

/-- What a schema says of a type. -/
def ParameterType.schema : ParameterType → List (String × Json)
  | .text => [("type", .string "string")]
  | .flag => [("type", .string "boolean")]
  | .limit => [("default", .null), ("type", .string "integer"), ("format", .string "int64")]

/-- An optional member of a tool's arguments. -/
structure Parameter where
  name : String
  type : ParameterType
  description : String
  deriving DecidableEq, Repr

/-- The schema of a parameter. It may be `null`. -/
def Parameter.schema (p : Parameter) : Json :=
  .object ([("description", .string p.description), ("nullable", .bool true)] ++ p.type.schema)

namespace Tool

/-- The parameters of a tool. -/
def parameters : Tool → List Parameter
  | .describeModel =>
    [⟨"model_name", .text,
      "Model to describe, as a class name or table name (e.g., 'User', 'BlogPost', 'blog_posts')"⟩]
  | .describeTable =>
    [⟨"table_name", .text,
      "Table name to describe (e.g., 'users', 'products'). Use snake_case, plural form."⟩]
  | .listModels =>
    [⟨"include_schema", .flag,
      "Load the application and include each model's table name, columns and associations " ++
        "(slower: boots the application)"⟩]
  | .selectRecords =>
    [⟨"model_name", .text,
        "Model name to fetch records for (e.g., 'users', 'blog_posts'). Use snake_case, plural form."⟩,
      ⟨"filter_condition", .text,
        "WHERE condition to filter records (e.g., 'content IS NOT NULL', \"status = 'published'\")"⟩,
      ⟨"order_by", .text, "ORDER BY clause (e.g., 'created_at DESC', 'name ASC')"⟩,
      ⟨"limit", .limit, "Maximum number of records to return (e.g., 5, 10). 0 returns no rows."⟩,
      ⟨"aggregate_statement", .text,
        "Aggregate to compute instead of listing rows: count, count(col), sum(col), average(col), " ++
          "minimum(col), maximum(col)"⟩,
      ⟨"count_only", .flag,
        "Return only the number of matching records (e.g., true for 'show the size of posts')"⟩]

/-- The schema of a tool's arguments. -/
def schema (tool : Tool) : Json :=
  .object [("$schema", .string "http://json-schema.org/draft-07/schema#"), ("title", .string tool.schemaTitle),
    ("type", .string "object"), ("properties", .object (tool.parameters.map fun p => (p.name, p.schema)))]

/-- What a client is told of a tool. -/
def announcement (tool : Tool) : Json :=
  .object [("name", .string tool.name), ("description", .string tool.description), ("inputSchema", tool.schema)]

/-! ## Small laws -/

/-- Every tool is among all tools. -/
theorem mem_all (tool : Tool) : tool ∈ all := by
  cases tool <;> decide

/-- A tool is found by its name. -/
theorem ofName?_name (tool : Tool) : ofName? tool.name = some tool := by
  cases tool <;> decide

end Tool

end RecordGate
