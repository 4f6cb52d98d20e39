import ChangeApply.Change.Merged

set_option autoImplicit false

namespace ChangeApply

inductive Policy where
  | rowByRow
  | replacing
  | merging (verb : InsertVerb)
  | mergingReplace
deriving DecidableEq

inductive Plan where
  | statements (list : List Statement)
  | merged (statement : MergedStatement)
deriving DecidableEq

namespace Plan

def size : Plan → Nat
  | .statements list => list.length
  | .merged _ => 1

def isEmpty (plan : Plan) : Bool := plan.size = 0

def toList : Plan → List Statement
  | .statements list => list
  | .merged statement => [statement.toStatement]

/-- A change without rows has an empty plan, and updates are always written row by
row. -/
def ofChange (change : RowChange) (table : Table) (policy : Policy) : Except ChangeFault Plan :=
  if change.rows.isEmpty then .ok (.statements [])
  else
    match change.action, policy with
    | .insert, .rowByRow => (change.upserts table).map .statements
    | .insert, .replacing => (change.replacements table).map .statements
    | .insert, .merging verb => (change.insertAll table verb).map .merged
    | .insert, .mergingReplace => (change.replaceAll table).map .merged
    | .update, _ => (change.updates table).map .statements
    | .delete, .rowByRow => (change.deletes table).map .statements
    | .delete, .replacing => (change.deletes table).map .statements
    | .delete, .merging _ => (change.deleteAll table).map .merged
    | .delete, .mergingReplace => (change.deleteAll table).map .merged

end Plan

end ChangeApply
