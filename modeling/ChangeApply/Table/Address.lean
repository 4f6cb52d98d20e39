import ChangeApply.Identifier
import ChangeApply.Table.Basic
import ChangeApply.Text.CharRange

set_option autoImplicit false

namespace ChangeApply.Table

def key (table : Table) : List String :=
  if table.primaryKeys.isEmpty then table.uniqueKeys else table.primaryKeys

def addShardKey (columns : List String) : Option String → List String
  | none => columns
  | some shardKey =>
    if Blank.onlyBlanks shardKey || columns.contains shardKey then columns
    else columns ++ [shardKey]

def address (table : Table) : List String :=
  if table.key.isEmpty then table.columnNames
  else addShardKey (addShardKey table.key table.databaseShardKey) table.tableShardKey

def uniqueAddress (table : Table) : List String :=
  if table.primaryKeys.isEmpty then table.address else table.address ++ table.uniqueKeys

def identity (table : Table) : List String :=
  table.address.filter fun column => !Identifier.isHidden column

end ChangeApply.Table
