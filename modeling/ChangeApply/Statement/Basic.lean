import ChangeApply.Value

set_option autoImplicit false

namespace ChangeApply

structure Statement where
  sql : String
  params : List Value
  table : String
deriving DecidableEq

structure MergedStatement where
  sql : String
  params : List Value
  table : String
  rowCount : Nat
deriving DecidableEq

structure DdlStatement where
  sql : String
  schema : String
  unhinted : String
  token : String
deriving DecidableEq

def MergedStatement.toStatement (merged : MergedStatement) : Statement :=
  ⟨merged.sql, merged.params, merged.table⟩

def DdlStatement.toStatement (ddl : DdlStatement) : Statement := ⟨ddl.sql, [], ddl.schema⟩

end ChangeApply
