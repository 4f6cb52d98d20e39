import ChangeApply.Change.PerRow

set_option autoImplicit false

namespace ChangeApply.RowChange

def requireRows (change : RowChange) (table : Table) : Except ChangeFault Unit :=
  if change.rows.isEmpty then .error (.withoutRows table.name) else .ok ()

def flattened (change : RowChange) (columns : List String) : List Value :=
  change.rows.flatMap fun row => row.currents columns

def insertAll (change : RowChange) (table : Table) (verb : InsertVerb) :
    Except ChangeFault MergedStatement := do
  change.requireRows table
  let columns ← change.requireVisible table
  return ⟨(Sql.insert verb table.qualified columns change.rowCount).text, change.flattened columns,
    table.name, change.rowCount⟩

def replaceAll (change : RowChange) (table : Table) : Except ChangeFault MergedStatement :=
  change.insertAll table .replace

-- A row with a null in its identity equals no tuple and stays in place.
def deleteAll (change : RowChange) (table : Table) : Except ChangeFault MergedStatement := do
  change.requireRows table
  let identity ← table.requireIdentity
  return ⟨(Sql.deleteIn table.qualified identity change.rowCount).text, change.flattened identity,
    table.name, change.rowCount⟩

end ChangeApply.RowChange
