import ChangeApply.Destination.Request

set_option autoImplicit false

/- A destination in memory, for dry runs. Statements run with autocommit off are
   staged on their connection until it commits. -/
namespace ChangeApply

structure Store where
  committed : List Sent
  jobs : List ResultRow
  failingPatterns : List String
  stallingPatterns : List String
  refusesAcquire : Bool
  refusesCommit : Bool
  refusesRollback : Bool
  refusesQuery : Bool
  acquired : Nat
  released : Nat
  dropped : Nat
  rollbacks : Nat
deriving DecidableEq

structure Connection where
  autoCommit : Bool
  staged : List Sent
  released : Bool
deriving DecidableEq

structure Served (α : Type) where
  reply : Except Failure α
  connection : Connection
  store : Store

namespace Connection

def fresh : Connection := ⟨true, [], false⟩

end Connection

namespace Store

def empty : Store := ⟨[], [], [], [], false, false, false, false, 0, 0, 0, 0⟩

def matchesAny (patterns : List String) (sql : String) : Bool :=
  patterns.any fun pattern => Text.contains sql pattern

def failingPattern? (store : Store) (sql : String) : Option String :=
  store.failingPatterns.find? fun pattern => Text.contains sql pattern

def acquire (store : Store) : Except Failure (Connection × Store) :=
  if store.refusesAcquire then .error (.because "connection refused")
  else .ok (.fresh, { store with acquired := store.acquired + 1 })

end Store

namespace Connection

variable {α : Type}

def refused (connection : Connection) (store : Store) (cause : String) : Served α :=
  ⟨.error (.because cause), connection, store⟩

def ifOpen (connection : Connection) (store : Store) (operation : Served α) : Served α :=
  if connection.released then connection.refused store "connection already released"
  else operation

def setAutoCommit (on : Bool) (connection : Connection) (store : Store) : Served Unit :=
  connection.ifOpen store <|
    if on && !connection.autoCommit then
      ⟨.ok (), { connection with autoCommit := true, staged := [] },
        { store with committed := store.committed ++ connection.staged }⟩
    else ⟨.ok (), { connection with autoCommit := on }, store⟩

def stalls (statement : Sent) (connection : Connection) (store : Store) : Bool :=
  !connection.released && Store.matchesAny store.stallingPatterns statement.sql

def execute (statement : Sent) (connection : Connection) (store : Store) : Served Nat :=
  connection.ifOpen store <|
    match store.failingPattern? statement.sql with
    | some pattern => connection.refused store ("injected failure on `" ++ pattern ++ "`")
    | none =>
      if connection.autoCommit then
        ⟨.ok 1, connection, { store with committed := store.committed ++ [statement] }⟩
      else ⟨.ok 1, { connection with staged := connection.staged ++ [statement] }, store⟩

def commit (connection : Connection) (store : Store) : Served Unit :=
  connection.ifOpen store <|
    if store.refusesCommit then connection.refused store "commit failed"
    else
      ⟨.ok (), { connection with staged := [] },
        { store with committed := store.committed ++ connection.staged }⟩

-- What is staged is discarded even when the rollback is refused.
def rollback (connection : Connection) (store : Store) : Served Unit :=
  connection.ifOpen store <|
    let cleared := { connection with staged := [] }
    let counted := { store with rollbacks := store.rollbacks + 1 }
    if store.refusesRollback then cleared.refused counted "rollback failed"
    else ⟨.ok (), cleared, counted⟩

def query (connection : Connection) (store : Store) : Served (List ResultRow) :=
  connection.ifOpen store <|
    if store.refusesQuery then connection.refused store "status query failed"
    else ⟨.ok store.jobs, connection, store⟩

def release (connection : Connection) (store : Store) : Served Unit :=
  if connection.released then ⟨.ok (), connection, store⟩
  else ⟨.ok (), ⟨true, [], true⟩, { store with released := store.released + 1 }⟩

def drop (connection : Connection) (store : Store) : Store :=
  if connection.released then store else { store with dropped := store.dropped + 1 }

end Connection

end ChangeApply
