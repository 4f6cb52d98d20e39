import ChangeApply.Proofs.Serving

set_option autoImplicit false

/- Calls made one after the other on one store. What a call does to the store has a
   closed form; from it, a run of calls applies the plan of every call that came out
   true exactly once, and nothing of any other. -/
namespace ChangeApply

namespace Store

def lend (store : Store) : Store := { store with acquired := store.acquired + 1 }

def takeBack (store : Store) : Store := { store with released := store.released + 1 }

def countRollback (store : Store) : Store := { store with rollbacks := store.rollbacks + 1 }

def grants (store : Store) (transaction : Bool) (statements : List Sent) : Bool :=
  !store.refusesAcquire && statements.all store.accepts && !(transaction && store.refusesCommit)

def visited (store : Store) (transaction : Bool) (statements : List Sent) : Store :=
  if store.refusesAcquire then store
  else if store.grants transaction statements then (store.lend.append statements).takeBack
  else if transaction then store.lend.countRollback.takeBack
  else store.lend.takeBack

end Store

def Leaves (granted : Bool) (store : Store) (result : Bool) (after : Standing) : Prop :=
  result = granted ∧ after.destination.drop after.held = .plain store

namespace Destination

theorem plain_acquire (store : Store) :
    (plain store).serve none .acquire =
      if store.refusesAcquire then ⟨.error (.because "connection refused"), none, plain store⟩
      else ⟨.ok (), some .fresh, plain store.lend⟩ := by
  cases refuses : store.refusesAcquire <;>
    simp [serve, plain, serveUnconnected, Store.acquire, refuses, Store.lend]

theorem plain_release (connection : Connection) (store : Store) (opened : connection.released = false) :
    (plain store).serve (some connection) .release = ⟨.ok (), some .givenBack, plain store.takeBack⟩ := by
  have released : connection.release store = ⟨.ok (), .givenBack, store.takeBack⟩ := by
    simp only [Connection.release, opened, Bool.false_eq_true, if_false]
    rfl
  exact congrArg (@turn .release (plain store)) released

theorem plain_execute_staged (sent : Sent) (staged : List Sent) (store : Store) (accepted : store.accepts sent = true) :
    (plain store).serve (some (.staging staged)) (.execute sent) =
      ⟨.ok (1 : Nat), some (.staging (staged ++ [sent])), plain store⟩ :=
  congrArg (@turn (.execute sent) (plain store)) (Connection.execute_accepted sent (.staging staged) store rfl accepted)

theorem plain_execute_durably (sent : Sent) (store : Store) (accepted : store.accepts sent = true) :
    (plain store).serve (some .fresh) (.execute sent) = ⟨.ok (1 : Nat), some .fresh, plain (store.append [sent])⟩ :=
  congrArg (@turn (.execute sent) (plain store)) (Connection.execute_accepted sent .fresh store rfl accepted)

theorem plain_execute_refused (sent : Sent) (connection : Connection) (store : Store)
    (opened : connection.released = false) (unaccepted : store.accepts sent = false) :
    ∃ failure, (plain store).serve (some connection) (.execute sent) =
      ⟨.error failure, some connection, plain store⟩ := by
  obtain ⟨failure, executed⟩ := Connection.execute_refused sent connection store opened unaccepted
  exact ⟨failure, congrArg (@turn (.execute sent) (plain store)) executed⟩

theorem plain_stalls (sent : Sent) (connection : Connection) (store : Store) (flowing : store.stalls sent = false) :
    (plain store).stalls (some connection) (.execute sent) = false := by
  change (true && (!connection.released && store.stalls sent)) = false
  rw [flowing, Bool.and_false, Bool.and_false]

theorem plain_commit (staged : List Sent) (store : Store) :
    (plain store).serve (some (.staging staged)) .commit =
      if store.refusesCommit then
        ⟨.error (.because "commit failed"), some (.staging staged), plain store⟩
      else ⟨.ok (), some (.staging []), plain (store.append staged)⟩ := by
  have committed : (Connection.staging staged).commit store =
      if store.refusesCommit then ⟨.error (.because "commit failed"), .staging staged, store⟩
      else ⟨.ok (), .staging [], store.append staged⟩ := rfl
  refine (congrArg (@turn .commit (plain store)) committed).trans ?_
  cases store.refusesCommit <;> rfl

theorem plain_rollback (staged : List Sent) (store : Store) :
    ∃ reply, (plain store).serve (some (.staging staged)) .rollback =
      ⟨reply, some (.staging []), plain store.countRollback⟩ := by
  have rolled : (Connection.staging staged).rollback store =
      if store.refusesRollback then ⟨.error (.because "rollback failed"), .staging [], store.countRollback⟩
      else ⟨.ok (), .staging [], store.countRollback⟩ := rfl
  refine ⟨if store.refusesRollback then .error (.because "rollback failed") else .ok (), ?_⟩
  refine (congrArg (@turn .rollback (plain store)) rolled).trans ?_
  cases store.refusesRollback <;> rfl

end Destination

namespace Delivery

open Destination (plain plain_acquire plain_release plain_execute_staged plain_execute_durably
  plain_execute_refused plain_stalls plain_commit plain_rollback)

theorem send_rehearsed (task : String) (statement : Statement) (connection : Connection) (store : Store)
    (held : Option Connection) (after : Store) (post : Outcome → Standing → Prop)
    (opened : connection.released = false) (flowing : store.stalls statement.sent = false)
    (effect : store.accepts statement.sent = true →
      (plain store).serve (some connection) (.execute statement.sent) = ⟨.ok (1 : Nat), held, plain after⟩)
    (granted : store.accepts statement.sent = true → post (.ok ()) ⟨held, plain after⟩)
    (refused : store.accepts statement.sent = false → ∀ error, post (.error error) ⟨some connection, plain store⟩) :
    (send task statement).Ensures rehearsal post ⟨some connection, plain store⟩ := by
  rw [send_ensures]
  have unstalled := plain_stalls statement.sent connection store flowing
  cases accepted : store.accepts statement.sent with
  | true => exact rehearsal_granted _ _ held (plain after) unstalled (effect accepted) (granted accepted)
  | false =>
    obtain ⟨failure, served⟩ := plain_execute_refused statement.sent connection store opened accepted
    exact rehearsal_refused _ failure (some connection) (plain store) unstalled served (refused accepted _)

-- The statements before the first refused one stay staged; the call that sent them
-- rolls them back.
theorem send_all_rehearsed (task : String) (statements : List Statement) (staged : List Sent) (store : Store)
    (post : Outcome → Standing → Prop)
    (flowing : ∀ statement ∈ statements, store.stalls statement.sent = false)
    (granted : (statements.map Statement.sent).all store.accepts = true →
      post (.ok ()) ⟨some (.staging (staged ++ statements.map Statement.sent)), plain store⟩)
    (refused : (statements.map Statement.sent).all store.accepts = false →
      ∀ error left, post (.error error) ⟨some (.staging left), plain store⟩) :
    (sendAll task statements).Ensures rehearsal post ⟨some (.staging staged), plain store⟩ := by
  induction statements generalizing staged with
  | nil =>
    have done := granted rfl
    rwa [List.map_nil, List.append_nil] at done
  | cons statement rest ih =>
    rw [send_all_ensures]
    refine send_rehearsed task statement (.staging staged) store (some (.staging (staged ++ [statement.sent]))) store
      _ rfl (flowing statement (by simp)) (plain_execute_staged statement.sent staged store) ?_ ?_
    · intro accepted
      refine ih (staged ++ [statement.sent]) (fun other member => flowing other (by simp [member])) ?_ ?_
      · intro all
        have done := granted (by simp only [List.map_cons, List.all_cons, accepted, all, Bool.and_self])
        rwa [List.map_cons, List.append_cons] at done
      · intro some_refused
        exact refused (by simp only [List.map_cons, List.all_cons, some_refused, Bool.and_false])
    · intro unaccepted error
      exact refused (by simp only [List.map_cons, List.all_cons, unaccepted, Bool.false_and]) error staged

theorem transaction_rehearsed (task : String) (statements : List Statement) (store : Store)
    (post : Outcome → Standing → Prop)
    (flowing : ∀ statement ∈ statements, store.stalls statement.sent = false)
    (granted : (statements.map Statement.sent).all store.accepts = true → store.refusesCommit = false →
      post (.ok ()) ⟨some (.staging []), plain (store.append (statements.map Statement.sent))⟩)
    (refused : ((statements.map Statement.sent).all store.accepts && !store.refusesCommit) = false →
      ∀ error left, post (.error error) ⟨some (.staging left), plain store⟩) :
    (transaction task statements).Ensures rehearsal post ⟨some .fresh, plain store⟩ := by
  rw [transaction_ensures]
  refine rehearsal_granted _ () (some (.staging [])) (plain store) rfl rfl ?_
  refine send_all_rehearsed task statements [] store _ flowing ?_ ?_
  · intro accepted
    have served := plain_commit (statements.map Statement.sent) store
    cases refuses : store.refusesCommit with
    | true =>
      rw [refuses, if_pos rfl] at served
      exact rehearsal_refused _ _ _ _ rfl served (refused (by simp [refuses]) _ _)
    | false =>
      rw [refuses, if_neg (by simp)] at served
      exact rehearsal_granted _ _ _ _ rfl served (granted accepted refuses)
  · intro unaccepted error left
    exact refused (by rw [unaccepted, Bool.false_and]) error left

theorem connected_rehearsed (work : Dialogue Outcome) (store : Store) (post : Outcome → Standing → Prop)
    (turned : store.refusesAcquire = true → ∀ error, post (.error error) ⟨none, plain store⟩)
    (worked : store.refusesAcquire = false → work.Ensures rehearsal (fun outcome later =>
      ∃ connection after, later = ⟨some connection, plain after⟩ ∧ connection.released = false ∧
        post outcome ⟨some .givenBack, plain after.takeBack⟩) ⟨some .fresh, plain store.lend⟩) :
    (connected work).Ensures rehearsal post ⟨none, plain store⟩ := by
  rw [connected_ensures]
  have served := plain_acquire store
  cases refuses : store.refusesAcquire with
  | true =>
    rw [refuses, if_pos rfl] at served
    exact rehearsal_refused _ _ _ _ rfl served (turned refuses _)
  | false =>
    rw [refuses, if_neg (by simp)] at served
    refine rehearsal_granted _ _ _ _ rfl served ?_
    refine Dialogue.ensures_mono rehearsal _ _ work _ ?_ (worked refuses)
    rintro outcome later ⟨connection, after, rfl, opened, done⟩
    rw [give_back_ensures]
    exact rehearsal_granted _ _ _ _ rfl (plain_release connection after opened) done

theorem single_rehearsed (task : String) (statement : Statement) (store : Store)
    (flowing : store.stalls statement.sent = false) :
    (single task statement).Ensures rehearsal
      (Leaves (store.grants false [statement.sent]) (store.visited false [statement.sent])) ⟨none, plain store⟩ := by
  rw [single_ensures]
  simp only [rehearsal_notes]
  refine connected_rehearsed _ store _ ?_ ?_
  · intro refuses error
    exact ⟨by simp [Store.grants, refuses, succeeded], by rw [Store.visited, if_pos refuses]; rfl⟩
  · intro opens
    refine send_rehearsed task statement .fresh store.lend (some .fresh) (store.lend.append [statement.sent]) _ rfl
      flowing (plain_execute_durably statement.sent store.lend) ?_ ?_
    · intro accepted
      have granted : store.grants false [statement.sent] = true := by
        have accepts : store.accepts statement.sent = true := accepted
        simp [Store.grants, opens, accepts]
      refine ⟨.fresh, store.lend.append [statement.sent], rfl, rfl, granted.symm, ?_⟩
      rw [Store.visited, if_neg (by simp [opens]), if_pos granted]
      rfl
    · intro unaccepted error
      have denied : store.grants false [statement.sent] = false := by
        have refused : store.accepts statement.sent = false := unaccepted
        simp [Store.grants, refused]
      refine ⟨.fresh, store.lend, rfl, rfl, denied.symm, ?_⟩
      rw [Store.visited, if_neg (by simp [opens]), if_neg (by simp [denied]), if_neg (by simp)]
      rfl

theorem atomic_rehearsed (task : String) (statements : List Statement) (store : Store)
    (flowing : ∀ statement ∈ statements, store.stalls statement.sent = false) :
    (atomic task statements).Ensures rehearsal
      (Leaves (store.grants true (statements.map Statement.sent)) (store.visited true (statements.map Statement.sent)))
      ⟨none, plain store⟩ := by
  rw [atomic_ensures]
  simp only [rehearsal_notes]
  refine connected_rehearsed _ store _ ?_ ?_
  · intro refuses error
    exact ⟨by simp [Store.grants, refuses, succeeded], by rw [Store.visited, if_pos refuses]; rfl⟩
  · intro opens
    rw [Dialogue.ensures_bind]
    refine transaction_rehearsed task statements store.lend _ flowing ?_ ?_
    · intro accepted commits
      have granted : store.grants true (statements.map Statement.sent) = true := by
        have accepts : (statements.map Statement.sent).all store.accepts = true := accepted
        have lets : store.refusesCommit = false := commits
        simp only [Store.grants, opens, accepts, lets, Bool.and_false, Bool.not_false, Bool.and_self]
      refine ⟨.staging [], _, rfl, rfl, granted.symm, ?_⟩
      rw [Store.visited, if_neg (by simp [opens]), if_pos granted]
      rfl
    · intro unaccepted error left
      have denied : store.grants true (statements.map Statement.sent) = false := by
        have refused : ((statements.map Statement.sent).all store.accepts && !store.refusesCommit) = false := unaccepted
        simpa only [Store.grants, opens, Bool.not_false, Bool.true_and] using refused
      rw [Dialogue.ensures_bind, undo_ensures]
      have left_store : store.visited true (statements.map Statement.sent) = store.lend.countRollback.takeBack := by
        rw [Store.visited, if_neg (by simp [opens]), if_neg (by simp [denied]), if_pos rfl]
      obtain ⟨reply, served⟩ := plain_rollback left store.lend
      cases reply with
      | ok answer =>
        refine rehearsal_granted _ answer _ _ rfl served ⟨.staging [], _, rfl, rfl, denied.symm, ?_⟩
        rw [left_store]
        rfl
      | error failure =>
        refine rehearsal_refused _ failure _ _ rfl served ⟨.staging [], _, rfl, rfl, denied.symm, ?_⟩
        rw [left_store]
        rfl

end Delivery

end ChangeApply
