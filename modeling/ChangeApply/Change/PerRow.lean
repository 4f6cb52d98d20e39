import ChangeApply.Change.Row
import ChangeApply.Statement.Basic
import ChangeApply.Statement.Sql
import ChangeApply.Table.Address

set_option autoImplicit false

namespace ChangeApply

namespace Table

def qualified (table : Table) : TableName := ⟨table.schema, table.name⟩

def statement (table : Table) (sql : Sql) (params : List Value) : Statement :=
  ⟨sql.text, params, table.name⟩

def requireIdentity (table : Table) : Except ChangeFault (List String) :=
  if table.identity.isEmpty then .error (.withoutIdentity table.name) else .ok table.identity

end Table

namespace Row

def currents (row : Row) (columns : List String) : List Value := columns.map row.current

def terms (row : Row) (identity : List String) : List Term :=
  identity.map fun column =>
    if (row.current column).isNull then .isNull column else .equals column

def keyValues (row : Row) (identity : List String) : List Value :=
  (row.currents identity).filter fun value => !value.isNull

def changedAmong (row : Row) (columns : List String) : List (String × Value) :=
  columns.filterMap fun column => (row.changed? column).map fun value => (column, value)

def upsert (table : Table) (columns : List String) (row : Row) : Statement :=
  table.statement (.upsert table.qualified columns) (row.currents columns ++ row.currents columns)

def insert (table : Table) (columns : List String) (row : Row) : Statement :=
  table.statement (.insert .plain table.qualified columns 1) (row.currents columns)

def delete (table : Table) (identity : List String) (row : Row) : Statement :=
  table.statement (.delete table.qualified (row.terms identity)) (row.keyValues identity)

def select (table : Table) (identity : List String) (row : Row) : Statement :=
  table.statement (.select table.qualified (row.terms identity)) (row.keyValues identity)

def update (table : Table) (identity columns : List String) (row : Row) : Option Statement :=
  let changed := row.changedAmong columns
  if changed.isEmpty then none
  else
    some (table.statement (.update table.qualified (changed.map Prod.fst) (row.terms identity))
      (changed.map Prod.snd ++ row.keyValues identity))

def replacement (table : Table) (identity columns : List String) (row : Row) : List Statement :=
  if identity.isEmpty then [row.insert table columns]
  else [row.delete table identity, row.insert table columns]

end Row

namespace RowChange

def visible (change : RowChange) : List String :=
  (change.columns.map (·.name)).filter fun column => !Identifier.isHidden column

def requireVisible (change : RowChange) (table : Table) : Except ChangeFault (List String) :=
  if change.visible.isEmpty then .error (.withoutColumns table.name) else .ok change.visible

def upserts (change : RowChange) (table : Table) : Except ChangeFault (List Statement) := do
  let columns ← change.requireVisible table
  return change.rows.map fun row => row.upsert table columns

def replacements (change : RowChange) (table : Table) : Except ChangeFault (List Statement) := do
  let columns ← change.requireVisible table
  return change.rows.flatMap fun row => row.replacement table table.identity columns

def deletes (change : RowChange) (table : Table) : Except ChangeFault (List Statement) := do
  let identity ← table.requireIdentity
  return change.rows.map fun row => row.delete table identity

def updates (change : RowChange) (table : Table) : Except ChangeFault (List Statement) := do
  let identity ← table.requireIdentity
  return change.rows.filterMap fun row => row.update table identity change.visible

def selects (change : RowChange) (table : Table) : Except ChangeFault (List Statement) := do
  let identity ← table.requireIdentity
  return change.rows.map fun row => row.select table identity

def unchangedRows (change : RowChange) : List Nat :=
  (change.rows.zipIdx.filter fun entry => (entry.1.changedAmong change.visible).isEmpty).map
    Prod.snd

end RowChange

end ChangeApply
