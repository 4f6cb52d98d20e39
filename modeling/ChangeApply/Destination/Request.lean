import ChangeApply.Ddl.Job

set_option autoImplicit false

namespace ChangeApply

structure Failure where
  causes : List String
deriving DecidableEq

namespace Failure

def because (cause : String) : Failure := ⟨[cause]⟩

def text (failure : Failure) : String := String.intercalate ": " failure.causes

end Failure

structure Sent where
  sql : String
  params : List Value
deriving DecidableEq

inductive Request where
  | acquire
  | setAutoCommit (on : Bool)
  | execute (statement : Sent)
  | commit
  | rollback
  | query (sql : String)
  | release
deriving DecidableEq

namespace Request

def Answer : Request → Type
  | .execute _ => Nat
  | .query _ => List ResultRow
  | _ => Unit

abbrev Reply (request : Request) : Type := Except Failure request.Answer

inductive Kind where
  | acquire
  | setAutoCommit
  | execute
  | commit
  | rollback
  | query
  | release
deriving DecidableEq

def kind : Request → Kind
  | .acquire => .acquire
  | .setAutoCommit _ => .setAutoCommit
  | .execute _ => .execute
  | .commit => .commit
  | .rollback => .rollback
  | .query _ => .query
  | .release => .release

namespace Kind

def names : List (String × Kind) :=
  [("acquire", .acquire), ("set_auto_commit", .setAutoCommit), ("execute_update", .execute),
   ("commit", .commit), ("rollback", .rollback), ("query", .query), ("release", .release)]

def ofName? (name : String) : Option Kind := names.lookup name

end Kind

end Request

end ChangeApply
