import ChangeApply.Proofs.Serving

set_option autoImplicit false

namespace ChangeApply

inductive Use where
  | setAutoCommit (on : Bool)
  | execute (statement : Sent)
  | commit
  | rollback
  | query
  | release
deriving DecidableEq

structure Effect where
  granted : Bool
  connection : Connection
  store : Store

def Served.effect {α : Type} (served : Served α) : Effect :=
  ⟨served.reply.isOk, served.connection, served.store⟩

def Use.on (use : Use) (connection : Connection) (store : Store) : Effect :=
  match use with
  | .setAutoCommit on => (connection.setAutoCommit on store).effect
  | .execute statement =>
    if connection.stalls statement store then ⟨false, connection, store⟩
    else (connection.execute statement store).effect
  | .commit => (connection.commit store).effect
  | .rollback => (connection.rollback store).effect
  | .query => (connection.query store).effect
  | .release => (connection.release store).effect

namespace Use

variable (connection : Connection) (store : Store)

theorem on_released (use : Use) (released : connection.released = true) (other : use ≠ .release) :
    use.on connection store = ⟨false, connection, store⟩ := by
  cases use with
  | setAutoCommit turned =>
    simp only [on, Connection.setAutoCommit, Connection.ifOpen, released, if_true]
    rfl
  | execute statement =>
    simp only [on, Connection.execute, Connection.ifOpen, Connection.stalls, released, if_true]
    rfl
  | commit =>
    simp only [on, Connection.commit, Connection.ifOpen, released, if_true]
    rfl
  | rollback =>
    simp only [on, Connection.rollback, Connection.ifOpen, released, if_true]
    rfl
  | query =>
    simp only [on, Connection.query, Connection.ifOpen, released, if_true]
    rfl
  | release => exact absurd rfl other

theorem release_released (released : connection.released = true) :
    release.on connection store = ⟨true, connection, store⟩ := by
  simp only [on, Connection.release, released, if_true]
  rfl

variable (opened : connection.released = false)

include opened

theorem set_auto_commit_open (turned : Bool) :
    (setAutoCommit turned).on connection store =
      if turned && !connection.autoCommit then
        ⟨true, { connection with autoCommit := true, staged := [] }, store.append connection.staged⟩
      else ⟨true, { connection with autoCommit := turned }, store⟩ := by
  simp only [on, Connection.setAutoCommit, Connection.ifOpen, opened, Bool.false_eq_true, if_false]
  cases turned && !connection.autoCommit <;> rfl

theorem execute_open (statement : Sent) :
    (execute statement).on connection store =
      if store.stalls statement || !store.accepts statement then ⟨false, connection, store⟩
      else if connection.autoCommit then ⟨true, connection, store.append [statement]⟩
      else ⟨true, { connection with staged := connection.staged ++ [statement] }, store⟩ := by
  have stalling : connection.stalls statement store = store.stalls statement := by
    rw [Connection.stalls, opened]
    rfl
  rw [on, stalling]
  cases store.stalls statement with
  | true => rfl
  | false =>
    cases accepted : store.accepts statement with
    | true =>
      rw [Connection.execute_accepted statement connection store opened accepted]
      cases connection.autoCommit <;> rfl
    | false =>
      obtain ⟨failure, refused⟩ := Connection.execute_refused statement connection store opened accepted
      rw [refused]
      rfl

theorem commit_open :
    commit.on connection store =
      if store.refusesCommit then ⟨false, connection, store⟩
      else ⟨true, { connection with staged := [] }, store.append connection.staged⟩ := by
  simp only [on, Connection.commit, Connection.ifOpen, opened, Bool.false_eq_true, if_false]
  by_cases refuses : store.refusesCommit = true
  · rw [if_pos refuses, if_pos refuses]
    rfl
  · rw [if_neg refuses, if_neg refuses]
    rfl

theorem rollback_open :
    rollback.on connection store =
      ⟨!store.refusesRollback, { connection with staged := [] }, { store with rollbacks := store.rollbacks + 1 }⟩ := by
  simp only [on, Connection.rollback, Connection.ifOpen, opened, Bool.false_eq_true, if_false]
  cases store.refusesRollback <;> rfl

theorem query_open : query.on connection store = ⟨!store.refusesQuery, connection, store⟩ := by
  simp only [on, Connection.query, Connection.ifOpen, opened, Bool.false_eq_true, if_false]
  cases store.refusesQuery <;> rfl

theorem release_open :
    release.on connection store = ⟨true, .givenBack, { store with released := store.released + 1 }⟩ := by
  simp only [on, Connection.release, opened, Bool.false_eq_true, if_false]
  rfl

end Use

inductive Operation where
  | acquire
  | use (connection : Nat) (use : Use)
  | drop (connection : Nat)
  | setFaults (faults : Faults)
  | setJobs (jobs : List ResultRow)

-- Connections are numbered as they are acquired. One that went away keeps its number.
structure Pool where
  store : Store
  connections : List (Option Connection)

namespace Pool

def empty : Pool := ⟨.empty, []⟩

def update (pool : Pool) (number : Nat) (effect : Effect) : Pool :=
  ⟨effect.store, pool.connections.set number (some effect.connection)⟩

def turn (pool : Pool) : Operation → Bool × Pool
  | .acquire =>
    match pool.store.acquire with
    | .ok (fresh, store) => (true, ⟨store, pool.connections ++ [some fresh]⟩)
    | .error _ => (false, pool)
  | .use number use =>
    match pool.connections[number]? with
    | some (some connection) =>
      let effect := use.on connection pool.store
      (effect.granted, pool.update number effect)
    | _ => (false, pool)
  | .drop number =>
    match pool.connections[number]? with
    | some (some connection) => (true, ⟨connection.drop pool.store, pool.connections.set number none⟩)
    | _ => (false, pool)
  | .setFaults faults => (true, { pool with store := pool.store.under faults })
  | .setJobs jobs => (true, { pool with store := { pool.store with jobs := jobs } })

def step (pool : Pool) (operation : Operation) : Pool := (pool.turn operation).2

def run (pool : Pool) (history : List Operation) : Pool := history.foldl step pool

def isOpen (slot : Option Connection) : Bool := slot.any fun connection => !connection.released

def openCount (pool : Pool) : Nat := pool.connections.countP isOpen

theorem update_same (pool : Pool) (number : Nat) (connection : Connection) (granted : Bool)
    (current : pool.connections[number]? = some (some connection)) :
    pool.update number ⟨granted, connection, pool.store⟩ = pool := by
  obtain ⟨inside, found⟩ := List.getElem?_eq_some_iff.mp current
  rw [update, ← found, List.set_getElem_self]

theorem turn_use (pool : Pool) (number : Nat) (use : Use) (connection : Connection)
    (current : pool.connections[number]? = some (some connection)) :
    pool.turn (.use number use) =
      ((use.on connection pool.store).granted, pool.update number (use.on connection pool.store)) := by
  simp only [turn, current]

theorem turn_drop (pool : Pool) (number : Nat) (connection : Connection)
    (current : pool.connections[number]? = some (some connection)) :
    pool.turn (.drop number) = (true, ⟨connection.drop pool.store, pool.connections.set number none⟩) := by
  simp only [turn, current]

theorem turn_gone (pool : Pool) (number : Nat) (gone : pool.connections[number]?.join = none) :
    (∀ use : Use, pool.turn (.use number use) = (false, pool)) ∧ pool.turn (.drop number) = (false, pool) := by
  match current : pool.connections[number]? with
  | none => exact ⟨fun use => by simp only [turn, current], by simp only [turn, current]⟩
  | some none => exact ⟨fun use => by simp only [turn, current], by simp only [turn, current]⟩
  | some (some connection) =>
    rw [current] at gone
    cases gone

theorem turn_released (pool : Pool) (number : Nat) (connection : Connection)
    (current : pool.connections[number]? = some (some connection)) (released : connection.released = true) :
    (∀ use : Use, use ≠ .release → pool.turn (.use number use) = (false, pool)) ∧
      pool.turn (.use number .release) = (true, pool) ∧ (pool.step (.drop number)).store = pool.store := by
  refine ⟨fun use other => ?_, ?_, ?_⟩
  · rw [pool.turn_use number use connection current, use.on_released connection pool.store released other,
      pool.update_same number connection false current]
  · rw [pool.turn_use number .release connection current, Use.release_released connection pool.store released,
      pool.update_same number connection true current]
  · rw [step, pool.turn_drop number connection current, Connection.drop, if_pos released]

theorem turn_refused_commit (pool : Pool) (number : Nat) (refused : (pool.turn (.use number .commit)).1 = false) :
    pool.step (.use number .commit) = pool := by
  cases current : pool.connections[number]?.join with
  | none => rw [step, (pool.turn_gone number current).1]
  | some connection =>
    have current := Option.join_eq_some_iff.mp current
    rw [pool.turn_use number .commit connection current] at refused
    rw [step, pool.turn_use number .commit connection current]
    cases released : connection.released with
    | true =>
      rw [Use.on_released connection pool.store .commit released (by decide)]
      exact pool.update_same number connection false current
    | false =>
      rw [Use.commit_open connection pool.store released] at refused ⊢
      cases refuses : pool.store.refusesCommit with
      | true => exact pool.update_same number connection false current
      | false => simp [refuses] at refused

end Pool

end ChangeApply
