import ChangeApply.Destination.Dialogue
import ChangeApply.Destination.Store

set_option autoImplicit false

namespace ChangeApply

structure Destination where
  store : Store
  fault? : Request.Kind → Option Failure

structure Turn (request : Request) where
  reply : request.Reply
  held : Option Connection
  destination : Destination

structure Run (α : Type) where
  result : Option α
  reports : List Report
  destination : Destination

namespace Destination

def empty : Destination := ⟨.empty, fun _ => none⟩

def setFault (kind : Request.Kind) (fault : Option Failure) (destination : Destination) :
    Destination :=
  { destination with
    fault? := fun other => if other = kind then fault else destination.fault? other }

def drop (held : Option Connection) (destination : Destination) : Destination :=
  match held with
  | some connection => { destination with store := connection.drop destination.store }
  | none => destination

def stalls (held : Option Connection) (destination : Destination) : Request → Bool
  | .execute statement =>
    (destination.fault? .execute).isNone &&
      held.any fun connection => connection.stalls statement destination.store
  | _ => false

def turn {request : Request} (destination : Destination) (served : Served request.Answer) :
    Turn request :=
  ⟨served.reply, some served.connection, { destination with store := served.store }⟩

def serveOn (connection : Connection) (destination : Destination) :
    (request : Request) → Turn request
  | .acquire =>
    match destination.store.acquire with
    | .error failure => ⟨.error failure, some connection, destination⟩
    | .ok (fresh, store) =>
      ⟨.ok (), some fresh, { destination with store := connection.drop store }⟩
  | .setAutoCommit on => destination.turn (connection.setAutoCommit on destination.store)
  | .execute statement => destination.turn (connection.execute statement destination.store)
  | .commit => destination.turn (connection.commit destination.store)
  | .rollback => destination.turn (connection.rollback destination.store)
  | .query _ => destination.turn (connection.query destination.store)
  | .release => destination.turn (connection.release destination.store)

def serveUnconnected (destination : Destination) (request : Request) : Turn request :=
  match request with
  | .acquire =>
    match destination.store.acquire with
    | .error failure => ⟨.error failure, none, destination⟩
    | .ok (fresh, store) => ⟨.ok (), some fresh, { destination with store := store }⟩
  | _ => ⟨.error (.because "no connection"), none, destination⟩

def serve (held : Option Connection) (destination : Destination) (request : Request) :
    Turn request :=
  match destination.fault? request.kind with
  | some failure => ⟨.error failure, held, destination⟩
  | none =>
    match held with
    | some connection => destination.serveOn connection request
    | none => destination.serveUnconnected request

end Destination

namespace Dialogue

variable {α : Type}

/-- Carries a dialogue on with the connection held. A connection still held at the
end is dropped. A statement that stalls ends the dialogue without a result, and its
connection is dropped. -/
def runFrom (held : Option Connection) (destination : Destination) : Dialogue α → Run α
  | .done result => ⟨some result, [], destination.drop held⟩
  | .report note next =>
    let run := next.runFrom held destination
    { run with reports := note :: run.reports }
  | .ask asked next =>
    if destination.stalls held asked then ⟨none, [], destination.drop held⟩
    else
      let turn := destination.serve held asked
      (next turn.reply).runFrom turn.held turn.destination

def run (destination : Destination) (dialogue : Dialogue α) : Run α :=
  dialogue.runFrom none destination

end Dialogue

end ChangeApply
