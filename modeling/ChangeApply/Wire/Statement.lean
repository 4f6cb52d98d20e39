import ChangeApply.Statement.Basic
import ChangeApply.Wire.Value

set_option autoImplicit false

namespace ChangeApply

namespace Statement

def toJson (statement : Statement) : Json :=
  Json.record [
    ("sql", Json.ofText statement.sql),
    ("params", .array (statement.params.map Value.toJson)),
    ("table", Json.ofText statement.table)]

def ofJson? (json : Json) : Option Statement := do
  let fields ← Wire.fields? ["sql", "params", "table"] json
  let sql ← Wire.required fields "sql" Json.text?
  let params ← Wire.required fields "params" (Json.list? Value.ofJson?)
  let table ← Wire.required fields "table" Json.text?
  return ⟨sql, params, table⟩

end Statement

namespace MergedStatement

def toJson (merged : MergedStatement) : Json :=
  Json.record [
    ("sql", Json.ofText merged.sql),
    ("params", .array (merged.params.map Value.toJson)),
    ("table", Json.ofText merged.table),
    ("row_count", Json.ofNat merged.rowCount)]

def ofJson? (json : Json) : Option MergedStatement := do
  let fields ← Wire.fields? ["sql", "params", "table", "row_count"] json
  let sql ← Wire.required fields "sql" Json.text?
  let params ← Wire.required fields "params" (Json.list? Value.ofJson?)
  let table ← Wire.required fields "table" Json.text?
  let rowCount ← Wire.required fields "row_count" (Json.natural? 18446744073709551615)
  return ⟨sql, params, table, rowCount⟩

end MergedStatement

namespace DdlStatement

def toJson (ddl : DdlStatement) : Json :=
  Json.record [
    ("sql", Json.ofText ddl.sql),
    ("schema", Json.ofText ddl.schema),
    ("original_sql", Json.ofText ddl.unhinted),
    ("token", Json.ofText ddl.token)]

def ofJson? (json : Json) : Option DdlStatement := do
  let fields ← Wire.fields? ["sql", "schema", "original_sql", "token"] json
  let sql ← Wire.required fields "sql" Json.text?
  let schema ← Wire.required fields "schema" Json.text?
  let unhinted ← Wire.required fields "original_sql" Json.text?
  let token ← Wire.required fields "token" Json.text?
  return ⟨sql, schema, unhinted, token⟩

end DdlStatement

end ChangeApply
