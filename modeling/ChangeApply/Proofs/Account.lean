import ChangeApply.Proofs.Pool

set_option autoImplicit false

namespace ChangeApply

inductive Fate where
  | committed
  | rolledBack
  | givenBack
  | dropped
deriving DecidableEq

structure Account where
  autoCommit : Bool
  settled : List (Sent × Fate)
  staged : List Sent

namespace Account

def opened : Account := ⟨true, [], []⟩

def accepted (account : Account) : List Sent := account.settled.map Prod.fst ++ account.staged

def committed (account : Account) : List Sent := (account.settled.filter fun entry => entry.2 = .committed).map Prod.fst

def settle (fate : Fate) (account : Account) : Account :=
  { account with settled := account.settled ++ account.staged.map (·, fate), staged := [] }

def accept (sent : Sent) (account : Account) : Account :=
  if account.autoCommit then { account with settled := account.settled ++ [(sent, .committed)] }
  else { account with staged := account.staged ++ [sent] }

theorem committed_sublist (account : Account) : account.committed.Sublist account.accepted :=
  (List.filter_sublist.map Prod.fst).trans (List.sublist_append_left _ _)

def after (use : Use) (granted : Bool) (account : Account) : Account :=
  match use, granted with
  | .setAutoCommit true, true => { account.settle .committed with autoCommit := true }
  | .setAutoCommit false, true => { account with autoCommit := false }
  | .execute sent, true => account.accept sent
  | .commit, true => account.settle .committed
  | .rollback, _ => account.settle .rolledBack
  | .release, _ => account.settle .givenBack
  | _, _ => account

def commits (use : Use) (granted : Bool) (account : Account) : List Sent :=
  match use, granted with
  | .setAutoCommit true, true => account.staged
  | .execute sent, true => if account.autoCommit then [sent] else []
  | .commit, true => account.staged
  | _, _ => []

@[simp]
theorem staged_settle (fate : Fate) (account : Account) : (account.settle fate).staged = [] := rfl

@[simp]
theorem accepted_settle (fate : Fate) (account : Account) : (account.settle fate).accepted = account.accepted := by
  simp [accepted, settle, Function.comp_def]

theorem settle_bare (fate : Fate) (account : Account) (bare : account.staged = []) : account.settle fate = account := by
  rw [settle, bare, List.map_nil, List.append_nil, ← bare]

theorem committed_settle (fate : Fate) (account : Account) :
    (account.settle fate).committed = account.committed ++ if fate = .committed then account.staged else [] := by
  by_cases kept : fate = .committed <;> simp [committed, settle, kept, List.filter_map, Function.comp_def]

end Account

def Use.accepts (use : Use) (granted : Bool) : List Sent :=
  match use, granted with
  | .execute sent, true => [sent]
  | _, _ => []

namespace Account

variable (use : Use) (granted : Bool) (account : Account)

theorem committed_after :
    (account.after use granted).committed = account.committed ++ account.commits use granted := by
  cases use with
  | setAutoCommit turned =>
    cases turned <;> cases granted <;> simp [after, commits, committed, settle, List.filter_map, Function.comp_def]
  | execute sent =>
    cases granted with
    | false => simp [after, commits]
    | true => cases mode : account.autoCommit <;> simp [after, commits, accept, committed, mode]
  | commit => cases granted <;> simp [after, commits, committed_settle]
  | rollback => simp [after, commits, committed_settle]
  | query => simp [after, commits]
  | release => simp [after, commits, committed_settle]

theorem after_refused (bare : account.staged = []) : account.after use false = account := by
  cases use with
  | setAutoCommit turned => cases turned <;> rfl
  | execute sent => rfl
  | commit => rfl
  | rollback => exact account.settle_bare .rolledBack bare
  | query => rfl
  | release => exact account.settle_bare .givenBack bare

theorem commits_refused : account.commits use false = [] := by
  cases use with
  | setAutoCommit turned => cases turned <;> rfl
  | execute sent => rfl
  | commit => rfl
  | rollback => rfl
  | query => rfl
  | release => rfl

theorem after_durable (sent : Sent) (durable : account.autoCommit = true) :
    account.after (.execute sent) true = { account with settled := account.settled ++ [(sent, .committed)] } :=
  if_pos durable

theorem after_staging (sent : Sent) (staging : ¬ account.autoCommit = true) :
    account.after (.execute sent) true = { account with staged := account.staged ++ [sent] } :=
  if_neg staging

-- With autocommit on nothing is staged, so what is accepted comes last.
theorem accepted_after (durable : account.autoCommit = true → account.staged = []) :
    (account.after use granted).accepted = account.accepted ++ use.accepts granted := by
  cases use with
  | setAutoCommit turned =>
    cases turned <;> cases granted <;> simp [after, Use.accepts, accepted, settle, Function.comp_def]
  | execute sent =>
    cases granted with
    | false => simp [after, Use.accepts]
    | true =>
      cases mode : account.autoCommit with
      | true => simp [after, Use.accepts, accept, accepted, mode, durable mode]
      | false => simp [after, Use.accepts, accept, accepted, mode]
  | commit => cases granted <;> simp [after, Use.accepts]
  | rollback => simp [after, Use.accepts]
  | query => simp [after, Use.accepts]
  | release => simp [after, Use.accepts]

end Account

structure Connection.Kept (connection : Connection) (account : Account) : Prop where
  staged : connection.staged = account.staged
  mode : connection.released = false → connection.autoCommit = account.autoCommit
  idle : connection.autoCommit = true ∨ connection.released = true → connection.staged = []

namespace Connection.Kept

variable {connection : Connection} {account : Account}

theorem durable (kept : connection.Kept account) : account.autoCommit = true → account.staged = [] := by
  intro durable
  rw [← kept.staged]
  cases released : connection.released with
  | true => exact kept.idle (.inr released)
  | false => exact kept.idle (.inl ((kept.mode released).trans durable))

theorem fresh : Connection.fresh.Kept .opened := ⟨rfl, fun _ => rfl, fun _ => rfl⟩

end Connection.Kept

structure Entered (use : Use) (connection : Connection) (store : Store) (account : Account) (effect : Effect) : Prop where
  kept : effect.connection.Kept (account.after use effect.granted)
  logged : effect.store.committed = store.committed ++ account.commits use effect.granted

theorem entered_refusal (use : Use) (connection : Connection) (store : Store) (account : Account)
    (same : account.after use false = account) (kept : connection.Kept account) :
    Entered use connection store account ⟨false, connection, store⟩ := by
  refine ⟨by rwa [same], ?_⟩
  rw [Account.commits_refused use account, List.append_nil]

theorem entered_released (use : Use) (connection : Connection) (store : Store) (account : Account)
    (kept : connection.Kept account) (released : connection.released = true) :
    Entered use connection store account (use.on connection store) := by
  have bare : account.staged = [] := kept.staged.symm.trans (kept.idle (.inr released))
  by_cases again : use = .release
  · subst again
    rw [Use.release_released connection store released]
    refine ⟨?_, (List.append_nil _).symm⟩
    change connection.Kept (account.settle .givenBack)
    rwa [account.settle_bare .givenBack bare]
  · rw [use.on_released connection store released again]
    exact entered_refusal use connection store account (Account.after_refused use account bare) kept

section

variable {connection : Connection} {store : Store} {account : Account}

theorem entered_set_auto_commit (turned : Bool) (kept : connection.Kept account) (opened : connection.released = false) :
    Entered (.setAutoCommit turned) connection store account ((Use.setAutoCommit turned).on connection store) := by
  rw [Use.set_auto_commit_open connection store opened]
  cases turned with
  | false =>
    refine ⟨⟨kept.staged, fun _ => rfl, ?_⟩, (List.append_nil _).symm⟩
    rintro (durable | released)
    · cases durable
    · exact kept.idle (.inr released)
  | true =>
    cases durable : connection.autoCommit with
    | true =>
      rw [if_neg (by decide)]
      have unstaged : connection.staged = [] := kept.idle (.inl durable)
      have bare : account.staged = [] := kept.staged.symm.trans unstaged
      refine ⟨⟨unstaged, fun _ => rfl, fun _ => unstaged⟩, ?_⟩
      rw [Account.commits, bare, List.append_nil]
    | false =>
      rw [if_pos (by decide)]
      refine ⟨⟨rfl, fun _ => rfl, fun _ => rfl⟩, ?_⟩
      rw [Account.commits, ← kept.staged]
      rfl

theorem entered_execute (sent : Sent) (kept : connection.Kept account) (opened : connection.released = false) :
    Entered (.execute sent) connection store account ((Use.execute sent).on connection store) := by
  have mode := kept.mode opened
  rw [Use.execute_open connection store opened]
  by_cases refused : (store.stalls sent || !store.accepts sent) = true
  · rw [if_pos refused]
    exact entered_refusal _ connection store account rfl kept
  · rw [if_neg refused]
    by_cases durable : connection.autoCommit = true
    · rw [if_pos durable]
      have settling := Account.after_durable account sent (mode.symm.trans durable)
      refine ⟨⟨?_, fun _ => ?_, kept.idle⟩, ?_⟩
      · rw [settling]
        exact kept.staged
      · rw [settling]
        exact mode
      · rw [Account.commits, if_pos (mode.symm.trans durable)]
        rfl
    · rw [if_neg durable]
      have staging := Account.after_staging account sent fun durably => durable (mode.trans durably)
      refine ⟨⟨?_, fun _ => ?_, ?_⟩, ?_⟩
      · rw [staging, ← kept.staged]
      · rw [staging]
        exact mode
      · rintro (durably | released)
        · exact absurd durably durable
        · cases opened.symm.trans released
      · rw [Account.commits, if_neg fun durably => durable (mode.trans durably)]
        exact (List.append_nil _).symm

theorem entered_commit (kept : connection.Kept account) (opened : connection.released = false) :
    Entered .commit connection store account (Use.commit.on connection store) := by
  rw [Use.commit_open connection store opened]
  by_cases refuses : store.refusesCommit = true
  · rw [if_pos refuses]
    exact entered_refusal _ connection store account rfl kept
  · rw [if_neg refuses]
    refine ⟨⟨rfl, kept.mode, fun _ => rfl⟩, ?_⟩
    rw [Account.commits, ← kept.staged]
    rfl

theorem entered_open (use : Use) (kept : connection.Kept account) (opened : connection.released = false) :
    Entered use connection store account (use.on connection store) := by
  cases use with
  | setAutoCommit turned => exact entered_set_auto_commit turned kept opened
  | execute sent => exact entered_execute sent kept opened
  | commit => exact entered_commit kept opened
  | rollback =>
    rw [Use.rollback_open connection store opened]
    exact ⟨⟨rfl, kept.mode, fun _ => rfl⟩, (List.append_nil _).symm⟩
  | query =>
    rw [Use.query_open connection store opened]
    exact ⟨kept, (List.append_nil _).symm⟩
  | release =>
    rw [Use.release_open connection store opened]
    refine ⟨⟨rfl, fun impossible => ?_, fun _ => rfl⟩, (List.append_nil _).symm⟩
    cases impossible

theorem entered (use : Use) (kept : connection.Kept account) :
    Entered use connection store account (use.on connection store) := by
  cases released : connection.released with
  | true => exact entered_released use connection store account kept released
  | false => exact entered_open use kept released

end

structure Counted (connection : Connection) (store : Store) (effect : Effect) : Prop where
  acquired : effect.store.acquired = store.acquired
  dropped : effect.store.dropped = store.dropped
  released : effect.store.released + (if Pool.isOpen (some effect.connection) then 1 else 0) =
    store.released + if Pool.isOpen (some connection) then 1 else 0

theorem counted (use : Use) (connection : Connection) (store : Store) : Counted connection store (use.on connection store) := by
  cases released : connection.released with
  | true =>
    by_cases again : use = .release
    · subst again
      rw [Use.release_released connection store released]
      exact ⟨rfl, rfl, rfl⟩
    · rw [use.on_released connection store released again]
      exact ⟨rfl, rfl, rfl⟩
  | false =>
    cases use with
    | setAutoCommit turned =>
      rw [Use.set_auto_commit_open connection store released]
      cases turned && !connection.autoCommit <;> exact ⟨rfl, rfl, rfl⟩
    | execute sent =>
      rw [Use.execute_open connection store released]
      cases store.stalls sent || !store.accepts sent <;> cases connection.autoCommit <;> exact ⟨rfl, rfl, rfl⟩
    | commit =>
      rw [Use.commit_open connection store released]
      by_cases refuses : store.refusesCommit = true
      · rw [if_pos refuses]
        exact ⟨rfl, rfl, rfl⟩
      · rw [if_neg refuses]
        exact ⟨rfl, rfl, rfl⟩
    | rollback =>
      rw [Use.rollback_open connection store released]
      exact ⟨rfl, rfl, rfl⟩
    | query =>
      rw [Use.query_open connection store released]
      exact ⟨rfl, rfl, rfl⟩
    | release =>
      rw [Use.release_open connection store released]
      exact ⟨rfl, rfl, by simp [Pool.isOpen, released, Connection.givenBack]⟩

end ChangeApply
