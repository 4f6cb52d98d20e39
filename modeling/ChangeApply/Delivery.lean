import ChangeApply.Change.Plan
import ChangeApply.Destination.Dialogue

set_option autoImplicit false

/- Sending statements to a destination. Each call acquires a connection of its own
   and gives it back however the call ends; a failure is logged and kept as the task's
   last error. Nothing is tried twice. -/
namespace ChangeApply

inductive DeliveryError where
  | acquire (cause : Failure)
  | autoCommit (cause : Failure)
  | execute (sql : String) (cause : Failure)
  | commit (cause : Failure)
  | rollback (cause : Failure)
  | listing (token : String) (cause : Failure)
  | change (cause : ChangeFault)
deriving DecidableEq

namespace DeliveryError

def message : DeliveryError → String
  | .acquire cause => "failed to acquire connection: " ++ cause.text
  | .autoCommit cause => "failed to set autocommit: " ++ cause.text
  | .execute sql cause => "failed to execute `" ++ sql ++ "`: " ++ cause.text
  | .commit cause => "failed to commit: " ++ cause.text
  | .rollback cause => "failed to roll back: " ++ cause.text
  | .listing token cause => "failed to query DDL state for token " ++ token ++ ": " ++ cause.text
  | .change cause => "failed to build statements: " ++ cause.message

end DeliveryError

namespace Delivery

open Dialogue (request log count recordError)

abbrev Outcome := Except DeliveryError Unit

def succeeded : Outcome → Bool
  | .ok _ => true
  | .error _ => false

def send (task : String) (statement : Statement) : Dialogue Outcome := do
  log (.executing task statement.sql (Value.listText statement.params))
  match ← request (.execute ⟨statement.sql, statement.params⟩) with
  | .ok _ => return .ok ()
  | .error failure =>
    log (.statementFailed task statement.table statement.sql (Value.listText statement.params))
    return .error (.execute statement.sql failure)

def sendAll (task : String) : List Statement → Dialogue Outcome
  | [] => return .ok ()
  | statement :: rest => do
    match ← send task statement with
    | .ok () => sendAll task rest
    | .error error => return .error error

def transaction (task : String) (statements : List Statement) : Dialogue Outcome := do
  match ← request (.setAutoCommit false) with
  | .error failure => return .error (.autoCommit failure)
  | .ok _ =>
    match ← sendAll task statements with
    | .error error => return .error error
    | .ok () =>
      match ← request .commit with
      | .ok _ => return .ok ()
      | .error failure => return .error (.commit failure)

def undo (task table : String) : Outcome → Dialogue Unit
  | .ok () => return ()
  | .error _ => do
    match ← request .rollback with
    | .ok _ => return ()
    | .error failure =>
      log (.rollbackFailed task table (DeliveryError.rollback failure).message)

def giveBack (reporter : Log.Target) : Dialogue Unit := do
  match ← request .release with
  | .ok _ => return ()
  | .error failure => log (.releaseFailed reporter failure.text)

def connected (work : Dialogue Outcome) : Dialogue Outcome := do
  match ← request .acquire with
  | .error failure => return .error (.acquire failure)
  | .ok _ =>
    let outcome ← work
    giveBack .executor
    return outcome

def complain (task table : String) (error : DeliveryError) : Dialogue Unit := do
  log (.applyFailed task table error.message)
  recordError task error.message

def settle (task table : String) (counter : Bool → Counter) (outcome : Outcome) :
    Dialogue Bool := do
  count (counter (succeeded outcome))
  match outcome with
  | .ok () => return true
  | .error error =>
    complain task table error
    return false

def single (task : String) (statement : Statement) : Dialogue Bool := do
  let outcome ← connected (send task statement)
  settle task statement.table .statements outcome

def firstTable : List Statement → String
  | [] => ""
  | statement :: _ => statement.table

def atomic (task : String) (statements : List Statement) : Dialogue Bool := do
  let table := firstTable statements
  let outcome ← connected do
    let outcome ← transaction task statements
    undo task table outcome
    return outcome
  settle task table .transactions outcome

/-- One statement by itself, several as one transaction. An empty plan succeeds and
asks nothing of the destination. -/
def deliver (task : String) : Plan → Dialogue Bool
  | .statements [] => return true
  | .statements [statement] => single task statement
  | .statements statements => atomic task statements
  | .merged statement => single task statement.toStatement

def logAll : List Log.Event → Dialogue Unit
  | [] => return ()
  | event :: rest => do
    log event
    logAll rest

def unchangedEvents (change : RowChange) (table : Table) : List Log.Event :=
  change.unchangedRows.map fun row => .rowUnchanged table.name row

def planEvents (change : RowChange) (table : Table) : List Log.Event :=
  if change.action = .update && !table.identity.isEmpty then unchangedEvents change table else []

def deliverChange (policy : Policy) (task : String) (change : RowChange) (table : Table) :
    Dialogue Bool := do
  logAll (planEvents change table)
  match Plan.ofChange change table policy with
  | .ok plan => deliver task plan
  | .error fault =>
    complain task table.name (.change fault)
    return false

def useSchema (schema : String) : Statement := ⟨"USE " ++ Identifier.quote schema, [], schema⟩

def ddlStatements (ddl : DdlStatement) : List Statement :=
  if ddl.schema.isEmpty then [ddl.toStatement] else [useSchema ddl.schema, ddl.toStatement]

def sendDdl (task : String) (ddl : DdlStatement) : Dialogue Bool := do
  log (.dispatching task ddl.schema ddl.token)
  let outcome ← connected (sendAll task (ddlStatements ddl))
  settle task ddl.schema .statements outcome

def deliverDdl (hint : Hint) (task statement schema : String) (kind : DdlKind)
    (token : String) : Dialogue Bool :=
  sendDdl task (.prepare statement schema kind token hint)

end Delivery

end ChangeApply
