set_option autoImplicit false

namespace ChangeApply

inductive ChangeFault where
  | withoutColumns (table : String)
  | withoutRows (table : String)
  | withoutIdentity (table : String)
  | strayKey (table column : String)
deriving DecidableEq

namespace ChangeFault

def message : ChangeFault → String
  | .withoutColumns table => "table " ++ table ++ " has no columns"
  | .withoutRows table => "row change for " ++ table ++ " carries no rows"
  | .withoutIdentity table => "table " ++ table ++ " has no identity columns for a merged delete"
  | .strayKey table column => "key column " ++ column ++ " is not a column of " ++ table

end ChangeFault

structure Column where
  name : String
  ordinal : UInt32
deriving DecidableEq

structure Table where
  schema : String
  name : String
  columns : List Column
  primaryKeys : List String
  uniqueKeys : List String
  databaseShardKey : Option String
  tableShardKey : Option String
deriving DecidableEq

namespace Table

def columnNames (table : Table) : List String := table.columns.map (·.name)

def declares (table : Table) (name : String) : Bool := table.columnNames.contains name

def ofNames (schema name : String) (columns : List String) : Table where
  schema := schema
  name := name
  columns := columns.zipIdx.map fun entry => ⟨entry.1, UInt32.ofNat (entry.2 + 1)⟩
  primaryKeys := []
  uniqueKeys := []
  databaseShardKey := none
  tableShardKey := none

def withPrimaryKeys (table : Table) (keys : List String) : Table :=
  { table with primaryKeys := keys }

def withUniqueKeys (table : Table) (keys : List String) : Table :=
  { table with uniqueKeys := keys }

def withShardKeys (table : Table) (database ofTable : Option String) : Table :=
  { table with databaseShardKey := database, tableShardKey := ofTable }

def check (table : Table) : Except ChangeFault Unit :=
  if table.columns.isEmpty then .error (.withoutColumns table.name)
  else
    match (table.primaryKeys ++ table.uniqueKeys).find? fun key => !table.declares key with
    | some key => .error (.strayKey table.name key)
    | none => .ok ()

end Table

end ChangeApply
