import ChangeApply.Settings
import ChangeApply.JobWatch
import ChangeApply.Destination.Serve

set_option autoImplicit false

namespace ChangeApply

structure DryRun where
  settings : Settings
  destination : Destination
  lastErrors : List (String × String)
  connections : List (String × Connection)

namespace DryRun

inductive Switch where
  | acquire
  | commit
  | rollback
  | query
deriving DecidableEq

inductive Step where
  | look
  | failStatements (pattern : String)
  | stallStatements (pattern : String)
  | refuse (switch : Switch) (on : Bool)
  | setJobs (rows : List ResultRow)
  | fault (kind : Request.Kind) (fault : Option Failure)
  | recordError (task message : String)
  | single (task : String) (statement : Statement)
  | atomic (task : String) (statements : List Statement)
  | deliver (task : String) (plan : Plan)
  | deliverChange (task : String) (change : RowChange) (table : Table)
  | sendDdl (task : String) (ddl : DdlStatement)
  | deliverDdl (task statement schema : String) (kind : DdlKind) (token : String)
  | poll (token : String)
  | connect (name : String)
  | drop (name : String)
  | ask (name : String) (request : Request)

inductive Granted where
  | nothing
  | count (rows : Nat)
  | rows (found : List ResultRow)
deriving DecidableEq

def Granted.ofAnswer : (request : Request) → request.Answer → Granted
  | .execute _, touched => .count touched
  | .query _, found => .rows found
  | .acquire, _ => .nothing
  | .setAutoCommit _, _ => .nothing
  | .commit, _ => .nothing
  | .rollback, _ => .nothing
  | .release, _ => .nothing

inductive Result where
  | nothing
  | truth (value : Bool)
  | stalled
  | state (outcome : JobOutcome)
  | stateUnknown (error : DeliveryError)
  | granted (what : Granted)
  | refused (failure : Failure)
  | noConnection
deriving DecidableEq

def start (settings : Settings) : DryRun := ⟨settings, .empty, [], []⟩

def lastError? (run : DryRun) (task : String) : Option String := run.lastErrors.lookup task

def connection? (run : DryRun) (name : String) : Option Connection :=
  run.connections.lookup name

def keep (name : String) (connection : Connection) (connections : List (String × Connection)) :
    List (String × Connection) :=
  (name, connection) :: connections.filter fun entry => entry.1 ≠ name

def noteErrors (reports : List Report) (lastErrors : List (String × String)) :
    List (String × String) :=
  reports.foldl (fun kept report =>
    match report.failure? with
    | some failure => failure :: kept
    | none => kept) lastErrors

def withStore (run : DryRun) (change : Store → Store) : DryRun :=
  { run with destination := { run.destination with store := change run.destination.store } }

def call {α : Type} (run : DryRun) (dialogue : Dialogue α) (result : α → Result) :
    Result × List Report × DryRun :=
  let held := dialogue.run run.destination
  let after := { run with
    destination := held.destination
    lastErrors := noteErrors held.reports run.lastErrors }
  match held.result with
  | some value => (result value, held.reports, after)
  | none => (.stalled, held.reports, after)

def flip (switch : Switch) (on : Bool) (store : Store) : Store :=
  match switch with
  | .acquire => { store with refusesAcquire := on }
  | .commit => { store with refusesCommit := on }
  | .rollback => { store with refusesRollback := on }
  | .query => { store with refusesQuery := on }

def openConnection (run : DryRun) (name : String) : Result × DryRun :=
  let turn := run.destination.serve none .acquire
  match turn.reply, turn.held with
  | .ok _, some connection =>
    (.granted .nothing, { run with
      destination := turn.destination.drop (run.connection? name)
      connections := keep name connection run.connections })
  | .error failure, _ => (.refused failure, { run with destination := turn.destination })
  | .ok _, none => (.granted .nothing, { run with destination := turn.destination })

def dropConnection (run : DryRun) (name : String) : Result × DryRun :=
  match run.connection? name with
  | some connection =>
    (.truth true, { run with
      destination := run.destination.drop (some connection)
      connections := run.connections.filter fun entry => entry.1 ≠ name })
  | none => (.truth false, run)

def ask (run : DryRun) (name : String) (request : Request) : Result × DryRun :=
  match run.connection? name with
  | none => (.noConnection, run)
  | some connection =>
    if run.destination.stalls (some connection) request then (.stalled, run)
    else
      let turn := run.destination.serve (some connection) request
      let after := { run with
        destination := turn.destination
        connections := keep name (turn.held.getD connection) run.connections }
      match turn.reply with
      | .ok answer => (.granted (.ofAnswer request answer), after)
      | .error failure => (.refused failure, after)

def quietly (outcome : Result × DryRun) : Result × List Report × DryRun :=
  (outcome.1, [], outcome.2)

def ofState : Except DeliveryError JobOutcome → Result
  | .ok outcome => .state outcome
  | .error error => .stateUnknown error

def step (run : DryRun) : Step → Result × List Report × DryRun
  | .look => (.nothing, [], run)
  | .failStatements pattern =>
    (.nothing, [], run.withStore fun store =>
      { store with failingPatterns := store.failingPatterns ++ [pattern] })
  | .stallStatements pattern =>
    (.nothing, [], run.withStore fun store =>
      { store with stallingPatterns := store.stallingPatterns ++ [pattern] })
  | .refuse switch on => (.nothing, [], run.withStore (flip switch on))
  | .setJobs rows => (.nothing, [], run.withStore fun store => { store with jobs := rows })
  | .fault kind fault =>
    (.nothing, [], { run with destination := run.destination.setFault kind fault })
  | .recordError task message => run.call (Dialogue.recordError task message) fun _ => .nothing
  | .single task statement => run.call (Delivery.single task statement) .truth
  | .atomic task statements => run.call (Delivery.atomic task statements) .truth
  | .deliver task plan => run.call (Delivery.deliver task plan) .truth
  | .deliverChange task change table =>
    run.call (Delivery.deliverChange run.settings.policy task change table) .truth
  | .sendDdl task ddl => run.call (Delivery.sendDdl task ddl) .truth
  | .deliverDdl task statement schema kind token =>
    run.call (Delivery.deliverDdl run.settings.hint task statement schema kind token) .truth
  | .poll token => run.call (JobWatch.poll run.settings.jobListing token) ofState
  | .connect name => quietly (run.openConnection name)
  | .drop name => quietly (run.dropConnection name)
  | .ask name request => quietly (run.ask name request)

structure Entry where
  result : Result
  added : List Sent
  reports : List Report
  after : DryRun

def entry (run : DryRun) (step : Step) : Entry :=
  let (result, reports, after) := run.step step
  ⟨result, after.destination.store.committed.drop run.destination.store.committed.length,
    reports, after⟩

namespace Entry

def events (entry : Entry) : List Log.Event := entry.reports.filterMap Report.event?

def counts (entry : Entry) : List (Counter × Nat) :=
  (Counter.all.map fun counter => (counter, (entry.reports.filterMap Report.counter?).count counter))
    |>.filter fun pair => 0 < pair.2

end Entry

end DryRun

end ChangeApply
