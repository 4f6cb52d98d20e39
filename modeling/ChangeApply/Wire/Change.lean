import ChangeApply.Wire.Kind
import ChangeApply.Wire.Table
import ChangeApply.Wire.Value

set_option autoImplicit false

namespace ChangeApply

namespace Cells

def toJson (cells : Cells) : Json :=
  Json.record (cells.entries.map fun entry => (entry.1, entry.2.toJson))

def cellOfMember? : Json.Text × Json → Option (String × Value)
  | (some name, content) => (Value.ofJson? content).map fun value => (name, value)
  | (none, _) => none

def ofJson? : Json → Option Cells
  | .object members => (members.mapM cellOfMember?).map ofPairs
  | _ => none

end Cells

namespace Row

def toJson (row : Row) : Json :=
  Json.record [("values", row.values.toJson), ("changes", row.changes.toJson)]

def ofJson? (json : Json) : Option Row := do
  let fields ← Wire.fields? ["values", "changes"] json
  let values ← Wire.required fields "values" Cells.ofJson?
  let changes ← Wire.defaulted fields "changes" Cells.empty Cells.ofJson?
  return ⟨values, changes⟩

end Row

namespace RowChange

def toJson (change : RowChange) : Json :=
  Json.record [
    ("action", change.action.toJson),
    ("columns", .array (change.columns.map Column.toJson)),
    ("rows", .array (change.rows.map Row.toJson))]

def ofJson? (json : Json) : Option RowChange := do
  let fields ← Wire.fields? ["action", "columns", "rows"] json
  let action ← Wire.required fields "action" RowAction.ofJson?
  let columns ← Wire.required fields "columns" (Json.list? Column.ofJson?)
  let rows ← Wire.required fields "rows" (Json.list? Row.ofJson?)
  return ⟨action, columns, rows⟩

end RowChange

end ChangeApply
