import ChangeApply.Proofs.Account
import Mathlib.Logic.Function.Basic

set_option autoImplicit false

/- The books of a store, with an account for each of its connections. They are kept from
   what was asked and granted alone, and the store agrees with them after any history. -/
namespace ChangeApply

structure Ledger where
  accounts : Nat → Account
  accepted : List (Nat × Sent)
  log : List (Nat × Sent)

namespace Ledger

def opening : Ledger := ⟨fun _ => .opened, [], []⟩

def enter (ledger : Ledger) (number : Nat) (account : Account) (accepted log : List Sent) : Ledger :=
  ⟨Function.update ledger.accounts number account, ledger.accepted ++ accepted.map (number, ·),
    ledger.log ++ log.map (number, ·)⟩

def record (ledger : Ledger) (operation : Operation) (granted : Bool) : Ledger :=
  match operation with
  | .use number use =>
    let account := ledger.accounts number
    ledger.enter number (account.after use granted) (use.accepts granted) (account.commits use granted)
  | .drop number => ledger.enter number ((ledger.accounts number).settle .dropped) [] []
  | _ => ledger

def entriesOf (number : Nat) (entries : List (Nat × Sent)) : List Sent :=
  (entries.filter fun entry => entry.1 = number).map Prod.snd

section

variable (ledger : Ledger) (number : Nat) (account : Account) (accepted log : List Sent)

theorem entries_own (entries : List (Nat × Sent)) (statements : List Sent) :
    entriesOf number (entries ++ statements.map (number, ·)) = entriesOf number entries ++ statements := by
  simp [entriesOf, List.filter_map, Function.comp_def]

theorem entries_other (other : Nat) (apart : number ≠ other) (entries : List (Nat × Sent)) (statements : List Sent) :
    entriesOf other (entries ++ statements.map (number, ·)) = entriesOf other entries := by
  simp [entriesOf, List.filter_map, Function.comp_def, apart]

theorem accounts_enter : (ledger.enter number account accepted log).accounts number = account := by
  simp only [enter, Function.update_self]

theorem accounts_enter_other (other : Nat) (apart : number ≠ other) :
    (ledger.enter number account accepted log).accounts other = ledger.accounts other := by
  simp only [enter, Function.update_of_ne apart.symm]

theorem enter_nothing : ledger.enter number (ledger.accounts number) [] [] = ledger := by
  rw [enter, Function.update_eq_self, List.map_nil, List.append_nil, List.append_nil]

end

end Ledger

structure Books where
  pool : Pool
  ledger : Ledger

namespace Books

def opening : Books := ⟨.empty, .opening⟩

def step (books : Books) (operation : Operation) : Books :=
  let turn := books.pool.turn operation
  ⟨turn.2, books.ledger.record operation turn.1⟩

def run (books : Books) (history : List Operation) : Books := history.foldl step books

theorem pool_run (history : List Operation) (books : Books) : (books.run history).pool = books.pool.run history := by
  induction history generalizing books with
  | nil => rfl
  | cons first rest ih => exact ih (books.step first)

end Books

/- What the books have of a connection: one not yet acquired, one that went away, or one
   that is there. -/
def Account.Describes (account : Account) : Option (Option Connection) → Prop
  | none => account = .opened
  | some none => account.staged = []
  | some (some connection) => connection.Kept account

theorem Account.bare_of_describes_gone (account : Account) (slot : Option (Option Connection))
    (describes : account.Describes slot) (gone : slot.join = none) : account.staged = [] := by
  match slot with
  | none => exact congrArg Account.staged describes
  | some none => exact describes

namespace Ledger

structure Posted (ledger : Ledger) (number : Nat) (slot : Option (Option Connection)) : Prop where
  describes : (ledger.accounts number).Describes slot
  accepted : entriesOf number ledger.accepted = (ledger.accounts number).accepted
  log : entriesOf number ledger.log = (ledger.accounts number).committed

variable {ledger : Ledger} {slot : Option (Option Connection)} (number : Nat) (account : Account) (accepted log : List Sent)

theorem posted_enter (next : Option (Option Connection)) (before : ledger.Posted number slot)
    (describes : account.Describes next)
    (added : account.accepted = (ledger.accounts number).accepted ++ accepted)
    (committed : account.committed = (ledger.accounts number).committed ++ log) :
    (ledger.enter number account accepted log).Posted number next := by
  refine ⟨?_, ?_, ?_⟩
  · rwa [accounts_enter]
  · rw [accounts_enter, added, ← before.accepted]
    exact entries_own number ledger.accepted accepted
  · rw [accounts_enter, committed, ← before.log]
    exact entries_own number ledger.log log

theorem posted_enter_other (other : Nat) (apart : number ≠ other) (before : ledger.Posted other slot) :
    (ledger.enter number account accepted log).Posted other slot := by
  refine ⟨?_, ?_, ?_⟩
  · rw [accounts_enter_other ledger number account accepted log other apart]
    exact before.describes
  · rw [accounts_enter_other ledger number account accepted log other apart, ← before.accepted]
    exact entries_other number other apart ledger.accepted accepted
  · rw [accounts_enter_other ledger number account accepted log other apart, ← before.log]
    exact entries_other number other apart ledger.log log

end Ledger

namespace Books

structure Agrees (books : Books) : Prop where
  balanced : books.pool.store.acquired =
    books.pool.store.released + books.pool.store.dropped + books.pool.openCount
  log : books.pool.store.committed = books.ledger.log.map Prod.snd
  each : ∀ number, books.ledger.Posted number books.pool.connections[number]?

variable {books : Books}

theorem agrees_opening : opening.Agrees :=
  ⟨rfl, rfl, fun _ => ⟨rfl, rfl, rfl⟩⟩

theorem each_enter (agrees : books.Agrees) (number : Nat) (slot : Option Connection) (account : Account)
    (accepted log : List Sent) (present : number < books.pool.connections.length)
    (describes : account.Describes (some slot))
    (added : account.accepted = (books.ledger.accounts number).accepted ++ accepted)
    (committed : account.committed = (books.ledger.accounts number).committed ++ log) (other : Nat) :
    (books.ledger.enter number account accepted log).Posted other (books.pool.connections.set number slot)[other]? := by
  by_cases same : number = other
  · subst same
    rw [List.getElem?_set_self present]
    exact Ledger.posted_enter number account accepted log (some slot) (agrees.each number) describes added committed
  · rw [List.getElem?_set_ne same]
    exact Ledger.posted_enter_other number account accepted log other same (agrees.each other)

theorem open_count_set (connections : List (Option Connection)) (number : Nat) (before after : Option Connection)
    (current : connections[number]? = some before) :
    (connections.set number after).countP Pool.isOpen + (if Pool.isOpen before then 1 else 0) =
      connections.countP Pool.isOpen + if Pool.isOpen after then 1 else 0 := by
  obtain ⟨present, found⟩ := List.getElem?_eq_some_iff.mp current
  have counted := List.boole_getElem_le_countP (p := Pool.isOpen) present
  rw [List.countP_set present, found] at *
  omega

theorem step_gone (agrees : books.Agrees) (number : Nat) (gone : books.pool.connections[number]?.join = none) :
    (∀ use : Use, books.step (.use number use) = books) ∧ books.step (.drop number) = books := by
  have bare := Account.bare_of_describes_gone _ _ (agrees.each number).describes gone
  obtain ⟨unused, undropped⟩ := books.pool.turn_gone number gone
  refine ⟨fun use => ?_, ?_⟩
  · have silent : use.accepts false = [] := by cases use <;> rfl
    rw [step, unused use, Ledger.record, Account.after_refused use _ bare, Account.commits_refused, silent,
      Ledger.enter_nothing]
  · rw [step, undropped, Ledger.record, Account.settle_bare .dropped _ bare, Ledger.enter_nothing]

theorem agrees_use (agrees : books.Agrees) (number : Nat) (use : Use) (connection : Connection)
    (current : books.pool.connections[number]? = some (some connection)) : (books.step (.use number use)).Agrees := by
  have kept : connection.Kept (books.ledger.accounts number) := by
    have described := (agrees.each number).describes
    rwa [current] at described
  obtain ⟨after, logged⟩ : Entered use connection books.pool.store _ _ := entered use kept
  obtain ⟨acquired, dropped, released⟩ := counted use connection books.pool.store
  obtain ⟨present, -⟩ := List.getElem?_eq_some_iff.mp current
  rw [step, books.pool.turn_use number use connection current]
  refine ⟨?_, ?_, ?_⟩
  · have counting := open_count_set books.pool.connections number _
      (some (use.on connection books.pool.store).connection) current
    have balanced := agrees.balanced
    simp only [Pool.openCount, Pool.update] at balanced ⊢
    omega
  · refine logged.trans ?_
    rw [agrees.log, Ledger.record, Ledger.enter, List.map_append]
    simp [Function.comp_def]
  · exact each_enter agrees number _ _ _ _ present after
      (Account.accepted_after use _ _ kept.durable) (Account.committed_after use _ _)

theorem agrees_drop (agrees : books.Agrees) (number : Nat) (connection : Connection)
    (current : books.pool.connections[number]? = some (some connection)) : (books.step (.drop number)).Agrees := by
  obtain ⟨present, -⟩ := List.getElem?_eq_some_iff.mp current
  have counting := open_count_set books.pool.connections number _ none current
  rw [step, books.pool.turn_drop number connection current]
  refine ⟨?_, ?_, ?_⟩
  · have balanced := agrees.balanced
    simp only [Pool.openCount, Connection.drop] at balanced ⊢
    cases released : connection.released <;> simp [Pool.isOpen, released] at counting ⊢ <;> omega
  · refine Eq.trans ?_ (agrees.log.trans ?_)
    · rw [Connection.drop]
      split <;> rfl
    · simp [Ledger.record, Ledger.enter]
  · refine each_enter agrees number none _ [] [] present (Account.staged_settle .dropped _) ?_ ?_
    · rw [Account.accepted_settle, List.append_nil]
    · rw [Account.committed_settle, if_neg (by decide)]

theorem agrees_acquire (agrees : books.Agrees) : (books.step .acquire).Agrees := by
  by_cases refuses : books.pool.store.refusesAcquire = true
  · simpa [step, Pool.turn, Store.acquire, refuses, Ledger.record] using agrees
  · have acquired : books.pool.store.acquire =
        .ok (.fresh, { books.pool.store with acquired := books.pool.store.acquired + 1 }) := by
      rw [Store.acquire, if_neg refuses]
    simp only [step, Pool.turn, acquired, Ledger.record]
    refine ⟨?_, agrees.log, fun number => ?_⟩
    · have balanced := agrees.balanced
      have fresh : [some Connection.fresh].countP Pool.isOpen = 1 := rfl
      simp only [Pool.openCount, List.countP_append, fresh] at balanced ⊢
      omega
    · have before := agrees.each number
      rcases Nat.lt_trichotomy number books.pool.connections.length with inside | rfl | outside
      · rwa [List.getElem?_append_left inside]
      · rw [List.getElem?_eq_none (Nat.le_refl _)] at before
        have unopened : books.ledger.accounts books.pool.connections.length = .opened := before.describes
        refine ⟨?_, before.accepted, before.log⟩
        rw [unopened, List.getElem?_concat_length]
        exact Connection.Kept.fresh
      · rw [List.getElem?_eq_none (Nat.le_of_lt outside)] at before
        rwa [List.getElem?_eq_none (by rw [List.length_append]; exact outside)]

theorem agrees_step (operation : Operation) (agrees : books.Agrees) : (books.step operation).Agrees := by
  cases operation with
  | acquire => exact agrees_acquire agrees
  | use number use =>
    cases current : books.pool.connections[number]?.join with
    | none =>
      rw [(step_gone agrees number current).1]
      exact agrees
    | some connection => exact agrees_use agrees number use connection (Option.join_eq_some_iff.mp current)
  | drop number =>
    cases current : books.pool.connections[number]?.join with
    | none =>
      rw [(step_gone agrees number current).2]
      exact agrees
    | some connection => exact agrees_drop agrees number connection (Option.join_eq_some_iff.mp current)
  | setFaults faults => exact ⟨agrees.balanced, agrees.log, agrees.each⟩
  | setJobs jobs => exact ⟨agrees.balanced, agrees.log, agrees.each⟩

theorem agrees_run (history : List Operation) (agrees : books.Agrees) : (books.run history).Agrees := by
  induction history generalizing books with
  | nil => exact agrees
  | cons first rest ih => exact ih (agrees_step first agrees)

theorem log_step (operation : Operation) : books.ledger.log <+: (books.step operation).ledger.log := by
  cases operation with
  | use number use => exact List.prefix_append _ _
  | drop number => exact List.prefix_append _ _
  | acquire => exact List.prefix_refl _
  | setFaults faults => exact List.prefix_refl _
  | setJobs jobs => exact List.prefix_refl _

theorem log_run (history : List Operation) : books.ledger.log <+: (books.run history).ledger.log := by
  induction history generalizing books with
  | nil => exact List.prefix_refl _
  | cons first rest ih => exact log_step first |>.trans ih

end Books

theorem store_agrees_with_its_ledger (history : List Operation) :
    let books := Books.opening.run history
    let pool := books.pool
    pool = Pool.empty.run history ∧
      pool.store.acquired = pool.store.released + pool.store.dropped + pool.openCount ∧
      (∀ (number : Nat) (connection : Connection), pool.connections[number]? = some (some connection) →
        connection.autoCommit = true ∨ connection.released = true → connection.staged = []) ∧
      (∀ later : List Operation, pool.store.committed <+: (pool.run later).store.committed) ∧
      pool.store.committed = books.ledger.log.map Prod.snd ∧
      (∀ number : Nat,
        let account := books.ledger.accounts number
        Ledger.entriesOf number books.ledger.accepted = account.settled.map Prod.fst ++ account.staged ∧
          pool.connections[number]?.join.elim [] Connection.staged = account.staged ∧
          Ledger.entriesOf number books.ledger.log = account.committed ∧
          (Ledger.entriesOf number books.ledger.log).Sublist (Ledger.entriesOf number books.ledger.accepted)) ∧
      (∀ number : Nat, (pool.turn (.use number .commit)).1 = false → pool.step (.use number .commit) = pool) ∧
      ∀ (number : Nat) (connection : Connection), pool.connections[number]? = some (some connection) →
        connection.released = true →
          (∀ use : Use, use ≠ .release → pool.turn (.use number use) = (false, pool)) ∧
            pool.turn (.use number .release) = (true, pool) ∧ (pool.step (.drop number)).store = pool.store := by
  intro books pool
  have agrees : books.Agrees := Books.agrees_run history Books.agrees_opening
  refine ⟨Books.pool_run history Books.opening, agrees.balanced, ?_, ?_, agrees.log, ?_, pool.turn_refused_commit,
    pool.turn_released⟩
  · intro number connection current
    have described := (agrees.each number).describes
    rw [current] at described
    exact described.idle
  · intro later
    rw [← Books.pool_run later books, (Books.agrees_run later agrees).log, agrees.log]
    exact (Books.log_run later).map Prod.snd
  · intro number account
    have posted := agrees.each number
    refine ⟨posted.accepted, ?_, posted.log, ?_⟩
    · have described := posted.describes
      cases current : pool.connections[number]?.join with
      | none => exact (Account.bare_of_describes_gone _ _ described current).symm
      | some connection =>
        rw [Option.join_eq_some_iff.mp current] at described
        exact described.staged
    · rw [posted.log, posted.accepted]
      exact account.committed_sublist

end ChangeApply
