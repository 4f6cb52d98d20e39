import ChangeApply.Table.Basic
import ChangeApply.Wire.Record

set_option autoImplicit false

namespace ChangeApply

namespace Column

def toJson (column : Column) : Json :=
  Json.record [("name", Json.ofText column.name), ("ordinal", Json.ofNat column.ordinal.toNat)]

def ofJson? (json : Json) : Option Column := do
  let fields ← Wire.fields? ["name", "ordinal"] json
  let name ← Wire.required fields "name" Json.text?
  let ordinal ← Wire.required fields "ordinal" (Json.natural? 4294967295)
  return ⟨name, UInt32.ofNat ordinal⟩

end Column

namespace Table

def textOrNull : Option String → Json
  | some text => Json.ofText text
  | none => .null

def toJson (table : Table) : Json :=
  Json.record [
    ("schema", Json.ofText table.schema),
    ("name", Json.ofText table.name),
    ("columns", .array (table.columns.map Column.toJson)),
    ("primary_keys", .array (table.primaryKeys.map Json.ofText)),
    ("unique_keys", .array (table.uniqueKeys.map Json.ofText)),
    ("db_shard_key", textOrNull table.databaseShardKey),
    ("table_shard_key", textOrNull table.tableShardKey)]

def fieldNames : List String :=
  ["schema", "name", "columns", "primary_keys", "unique_keys", "db_shard_key", "table_shard_key"]

def ofJson? (json : Json) : Option Table := do
  let fields ← Wire.fields? fieldNames json
  let schema ← Wire.required fields "schema" Json.text?
  let name ← Wire.required fields "name" Json.text?
  let columns ← Wire.required fields "columns" (Json.list? Column.ofJson?)
  let primaryKeys ← Wire.defaulted fields "primary_keys" [] (Json.list? Json.text?)
  let uniqueKeys ← Wire.defaulted fields "unique_keys" [] (Json.list? Json.text?)
  let databaseShardKey ← Wire.defaulted fields "db_shard_key" none (Json.nullable? Json.text?)
  let tableShardKey ← Wire.defaulted fields "table_shard_key" none (Json.nullable? Json.text?)
  return ⟨schema, name, columns, primaryKeys, uniqueKeys, databaseShardKey, tableShardKey⟩

end Table

end ChangeApply
