import ChangeApply.Change.Row
import ChangeApply.Statement.Basic

set_option autoImplicit false

/- DDL statements to send. A statement inside a database carries a token in a hint
   comment, by which its job is found again. -/
namespace ChangeApply

inductive DdlKind where
  | create
  | drop
  | alter
  | rename
  | truncate
  | createIndex
  | dropIndex
  | createDatabase
  | dropDatabase
deriving DecidableEq

def DdlKind.isDatabaseLevel : DdlKind → Bool
  | .createDatabase => true
  | .dropDatabase => true
  | _ => false

inductive EventKind where
  | row (action : RowAction)
  | ddl (kind : DdlKind)
deriving DecidableEq

def EventKind.isDdl : EventKind → Bool
  | .ddl _ => true
  | .row _ => false

inductive Hint where
  | plain
  | asynchronous
deriving DecidableEq

def Hint.render (hint : Hint) (token : String) : String :=
  match hint with
  | .plain => "/*+TDDL:cmd_extra(TSO=" ++ token ++ ")*/"
  | .asynchronous => "/*+TDDL:cmd_extra(PURE_ASYNC_DDL_MODE=TRUE,TSO=" ++ token ++ ")*/"

namespace DdlStatement

def marker (token : String) : String := "TSO=" ++ token ++ ")"

def prepare (statement schema : String) (kind : DdlKind) (token : String) (hint : Hint) :
    DdlStatement :=
  if kind.isDatabaseLevel then ⟨statement, "", statement, token⟩
  else ⟨hint.render token ++ statement, schema, statement, token⟩

end DdlStatement

end ChangeApply
