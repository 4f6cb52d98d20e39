import ChangeApply.Ddl.Statement
import ChangeApply.Text.Comparison

set_option autoImplicit false

/- The listing of DDL jobs and what it says about one of them. A job that is no
   longer listed has finished. -/
namespace ChangeApply

structure ResultRow where
  columns : List (String × Option String)
deriving DecidableEq

namespace ResultRow

def ofPairs (pairs : List (String × String)) : ResultRow :=
  ⟨pairs.map fun pair => (pair.1, some pair.2)⟩

def get? (row : ResultRow) (column : String) : Option String :=
  (row.columns.find? fun entry => Ascii.same entry.1 column).bind Prod.snd

end ResultRow

structure Job where
  statement : Option String
  state : Option String
deriving DecidableEq

inductive JobOutcome where
  | running
  | failed
  | succeeded
deriving DecidableEq

namespace JobOutcome

def isTerminal : JobOutcome → Bool
  | .running => false
  | _ => true

def name : JobOutcome → String
  | .running => "Running"
  | .failed => "Failed"
  | .succeeded => "Succeeded"

end JobOutcome

namespace Job

def ofRow (row : ResultRow) : Job := ⟨row.get? "DDL_STMT", row.get? "STATE"⟩

def carries (token : String) (job : Job) : Bool :=
  job.statement.any fun statement => Text.contains statement (DdlStatement.marker token)

def isPending (job : Job) : Bool := job.state.any fun state => Text.contains state "PENDING"

def outcome (job : Job) : JobOutcome := if job.isPending then .failed else .running

def verdict (jobs : List Job) (token : String) : JobOutcome :=
  ((jobs.find? (carries token)).map outcome).getD .succeeded

end Job

end ChangeApply
