import ChangeApply.Proofs.Conversation
import ChangeApply.Destination.Serve

set_option autoImplicit false

namespace ChangeApply

namespace Store

def accepts (store : Store) (sent : Sent) : Bool := (store.failingPattern? sent.sql).isNone

def stalls (store : Store) (sent : Sent) : Bool := matchesAny store.stallingPatterns sent.sql

def append (store : Store) (statements : List Sent) : Store :=
  { store with committed := store.committed ++ statements }

theorem accepts_iff (store : Store) (sent : Sent) :
    store.accepts sent = true ↔ ∀ pattern ∈ store.failingPatterns, Text.contains sent.sql pattern = false := by
  simp [accepts, failingPattern?]

theorem not_stalls_iff (store : Store) (sent : Sent) :
    store.stalls sent = false ↔ ∀ pattern ∈ store.stallingPatterns, Text.contains sent.sql pattern = false := by
  simp [stalls, matchesAny]

end Store

structure Faults where
  failingPatterns : List String
  stallingPatterns : List String
  refusesAcquire : Bool
  refusesCommit : Bool
  refusesRollback : Bool
  refusesQuery : Bool

def Store.under (store : Store) (faults : Faults) : Store where
  committed := store.committed
  jobs := store.jobs
  failingPatterns := faults.failingPatterns
  stallingPatterns := faults.stallingPatterns
  refusesAcquire := faults.refusesAcquire
  refusesCommit := faults.refusesCommit
  refusesRollback := faults.refusesRollback
  refusesQuery := faults.refusesQuery
  acquired := store.acquired
  released := store.released
  dropped := store.dropped
  rollbacks := store.rollbacks

namespace Connection

def staging (staged : List Sent) : Connection := ⟨false, staged, false⟩

def givenBack : Connection := ⟨true, [], true⟩

theorem execute_accepted (sent : Sent) (connection : Connection) (store : Store)
    (opened : connection.released = false) (accepted : store.accepts sent = true) :
    connection.execute sent store =
      if connection.autoCommit then ⟨.ok 1, connection, store.append [sent]⟩
      else ⟨.ok 1, { connection with staged := connection.staged ++ [sent] }, store⟩ := by
  have unmatched : store.failingPattern? sent.sql = none := by
    simpa only [Store.accepts, Option.isNone_iff_eq_none] using accepted
  simp only [execute, ifOpen, opened, unmatched, Bool.false_eq_true, if_false]
  rfl

theorem execute_refused (sent : Sent) (connection : Connection) (store : Store)
    (opened : connection.released = false) (unaccepted : store.accepts sent = false) :
    ∃ failure, connection.execute sent store = ⟨.error failure, connection, store⟩ := by
  cases matched : store.failingPattern? sent.sql with
  | none => simp [Store.accepts, matched] at unaccepted
  | some pattern =>
    refine ⟨.because ("injected failure on `" ++ pattern ++ "`"), ?_⟩
    simp only [execute, ifOpen, opened, matched, Bool.false_eq_true, if_false]
    rfl

end Connection

namespace Destination

def plain (store : Store) : Destination := ⟨store, fun _ => none⟩

end Destination

structure Standing where
  held : Option Connection
  destination : Destination

-- A statement that stalls has no turn: nothing comes after it.
def rehearsal : World Standing where
  ready standing asked := standing.destination.stalls standing.held asked = false
  turn standing asked reply after :=
    let turn := standing.destination.serve standing.held asked
    turn.reply = reply ∧ after = ⟨turn.held, turn.destination⟩
  note standing _ := standing

theorem rehearsal_notes (standing : Standing) (reports : List Report) :
    rehearsal.notes standing reports = standing :=
  rehearsal.notes_of_quiet (fun _ _ => rfl) standing reports

namespace Dialogue

variable {α : Type}

theorem run_from_of_ensures (post : α → Standing → Prop) (dialogue : Dialogue α) (held : Option Connection)
    (destination : Destination) (ensured : dialogue.Ensures rehearsal post ⟨held, destination⟩) :
    ∃ result after, post result after ∧ (dialogue.runFrom held destination).result = some result ∧
      (dialogue.runFrom held destination).destination = after.destination.drop after.held := by
  induction dialogue generalizing held destination with
  | done result => exact ⟨result, ⟨held, destination⟩, ensured, rfl, rfl⟩
  | report note rest ih => exact ih held destination ensured
  | ask asked rest ih =>
    obtain ⟨flowing, next⟩ := ensured
    change destination.stalls held asked = false at flowing
    rw [runFrom, if_neg (by simp [flowing])]
    exact ih _ _ _ (next _ _ ⟨rfl, rfl⟩)

end Dialogue

theorem rehearsal_meets (standing : Standing) {asked : Request} (reply : asked.Reply) (held : Option Connection)
    (destination : Destination)
    (served : standing.destination.serve standing.held asked = ⟨reply, held, destination⟩) :
    rehearsal.Meets standing asked reply ⟨held, destination⟩ := by
  rintro other later ⟨replied, rfl⟩
  rw [served] at replied ⊢
  exact ⟨replied.symm, rfl⟩

section

variable {asked : Request} {granted : asked.Answer → Standing → Prop} {refused : Failure → Standing → Prop}

theorem rehearsal_granted (standing : Standing) (answer : asked.Answer) (held : Option Connection)
    (destination : Destination) (flowing : standing.destination.stalls standing.held asked = false)
    (served : standing.destination.serve standing.held asked = ⟨.ok answer, held, destination⟩)
    (goal : granted answer ⟨held, destination⟩) :
    rehearsal.ready standing asked ∧
      (∀ answer after, rehearsal.turn standing asked (.ok answer) after → granted answer after) ∧
      ∀ failure after, rehearsal.turn standing asked (.error failure) after → refused failure after :=
  World.only_granted answer flowing (rehearsal_meets standing _ held destination served) goal

theorem rehearsal_refused (standing : Standing) (failure : Failure) (held : Option Connection)
    (destination : Destination) (flowing : standing.destination.stalls standing.held asked = false)
    (served : standing.destination.serve standing.held asked = ⟨.error failure, held, destination⟩)
    (goal : refused failure ⟨held, destination⟩) :
    rehearsal.ready standing asked ∧
      (∀ answer after, rehearsal.turn standing asked (.ok answer) after → granted answer after) ∧
      ∀ failure after, rehearsal.turn standing asked (.error failure) after → refused failure after :=
  World.only_refused failure flowing (rehearsal_meets standing _ held destination served) goal

end

end ChangeApply
