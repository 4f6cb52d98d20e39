import ChangeApply.Proofs.Interleaving

set_option autoImplicit false

/- What calls under way on one destination commit, whoever moves next. A call commits at
   one request only, and there all it has to commit; what it stages before is its own. -/
namespace ChangeApply

namespace Destination

def Exchanges (held : Option Connection) (asked : Request) (left : Option Connection) (gain : List Sent) : Prop :=
  ∀ destination : Destination,
    (destination.serve held asked).destination.store.committed =
        destination.store.committed ++ (if (destination.serve held asked).reply.isOk then gain else []) ∧
      (destination.serve held asked).held = if (destination.serve held asked).reply.isOk then left else held

def KeepsLog (held : Option Connection) (asked : Request) : Prop :=
  ∀ destination : Destination,
    (destination.serve held asked).destination.store.committed = destination.store.committed

theorem committed_drop (held : Option Connection) (destination : Destination) :
    (destination.drop held).store.committed = destination.store.committed := by
  cases held with
  | none => rfl
  | some connection => cases released : connection.released <;> simp [drop, Connection.drop, released]

theorem exchanges_of_unhindered (connection : Connection) (asked : Request) (left : Option Connection) (gain : List Sent)
    (served : ∀ destination : Destination,
      (destination.serveOn connection asked).destination.store.committed =
          destination.store.committed ++ (if (destination.serveOn connection asked).reply.isOk then gain else []) ∧
        (destination.serveOn connection asked).held =
          if (destination.serveOn connection asked).reply.isOk then left else some connection) :
    Exchanges (some connection) asked left gain := by
  intro destination
  cases hindered : destination.fault? asked.kind with
  | none =>
    simp only [serve, hindered]
    exact served destination
  | some failure =>
    simp only [serve, hindered]
    exact ⟨(List.append_nil _).symm, rfl⟩

theorem acquire_exchanges : Exchanges none .acquire (some .fresh) [] := by
  intro destination
  cases hindered : destination.fault? .acquire with
  | some failure => simp [serve, Request.kind, hindered, Except.isOk, Except.toBool]
  | none =>
    cases refuses : destination.store.refusesAcquire <;>
      simp [serve, Request.kind, hindered, serveUnconnected, Store.acquire, refuses, Except.isOk, Except.toBool]

theorem begin_exchanges : Exchanges (some .fresh) (.setAutoCommit false) (some (.staging [])) [] := by
  refine exchanges_of_unhindered _ _ _ _ fun destination => ?_
  exact ⟨(List.append_nil _).symm, rfl⟩

theorem execute_exchanges (sent : Sent) : Exchanges (some .fresh) (.execute sent) (some .fresh) [sent] := by
  refine exchanges_of_unhindered _ _ _ _ fun destination => ?_
  cases accepted : destination.store.accepts sent with
  | true =>
    rw [serveOn, Connection.execute_accepted sent .fresh destination.store rfl accepted]
    exact ⟨rfl, rfl⟩
  | false =>
    obtain ⟨failure, served⟩ := Connection.execute_refused sent .fresh destination.store rfl accepted
    rw [serveOn, served]
    exact ⟨(List.append_nil _).symm, rfl⟩

theorem stage_exchanges (sent : Sent) (staged : List Sent) :
    Exchanges (some (.staging staged)) (.execute sent) (some (.staging (staged ++ [sent]))) [] := by
  refine exchanges_of_unhindered _ _ _ _ fun destination => ?_
  cases accepted : destination.store.accepts sent with
  | true =>
    rw [serveOn, Connection.execute_accepted sent (.staging staged) destination.store rfl accepted]
    exact ⟨(List.append_nil _).symm, rfl⟩
  | false =>
    obtain ⟨failure, served⟩ := Connection.execute_refused sent (.staging staged) destination.store rfl accepted
    rw [serveOn, served]
    exact ⟨(List.append_nil _).symm, rfl⟩

theorem commit_exchanges (staged : List Sent) : Exchanges (some (.staging staged)) .commit (some (.staging [])) staged := by
  refine exchanges_of_unhindered _ _ _ _ fun destination => ?_
  cases refuses : destination.store.refusesCommit <;>
    simp [serveOn, turn, Connection.commit, Connection.ifOpen, Connection.staging, Connection.refused, refuses,
      Except.isOk, Except.toBool]

theorem keeps_log_of_unhindered (held : Option Connection) (asked : Request)
    (unconnected : ∀ destination : Destination, (destination.serveUnconnected asked).destination = destination)
    (served : ∀ (connection : Connection) (destination : Destination),
      (destination.serveOn connection asked).destination.store.committed = destination.store.committed) :
    KeepsLog held asked := by
  intro destination
  cases hindered : destination.fault? asked.kind with
  | some failure => simp only [serve, hindered]
  | none =>
    cases held with
    | none => simp only [serve, hindered, unconnected]
    | some connection => simp only [serve, hindered, served]

theorem rollback_keeps_log (held : Option Connection) : KeepsLog held .rollback := by
  refine keeps_log_of_unhindered held .rollback (fun _ => rfl) fun connection destination => ?_
  cases released : connection.released <;> cases refuses : destination.store.refusesRollback <;>
    simp [serveOn, turn, Connection.rollback, Connection.ifOpen, Connection.refused, released, refuses]

theorem release_keeps_log (held : Option Connection) : KeepsLog held .release := by
  refine keeps_log_of_unhindered held .release (fun _ => rfl) fun connection destination => ?_
  cases released : connection.released <;> simp [serveOn, turn, Connection.release, released]

end Destination

inductive Errand where
  | single (statement : Statement)
  | atomic (statements : List Statement)

namespace Errand

def dialogue (task : String) : Errand → Dialogue Bool
  | .single statement => Delivery.single task statement
  | .atomic statements => Delivery.atomic task statements

def block : Errand → List Sent
  | .single statement => [statement.sent]
  | .atomic statements => statements.map Statement.sent

def decides : Errand → Request → Bool
  | .single _, .execute _ => true
  | .atomic _, .commit => true
  | _, _ => false

/- A call's connection, and whether it has committed. -/
structure Stage where
  held : Option Connection
  settled : Bool

-- The other calls may do anything to the destination between two requests of this one.
def isolation (errand : Errand) : World Stage where
  ready stage asked :=
    ∀ destination : Destination,
      let turn := destination.serve stage.held asked
      let decisive := turn.reply.isOk && errand.decides asked
      turn.destination.store.committed = destination.store.committed ++ (if decisive then errand.block else []) ∧
        (decisive = true → stage.settled = false)
  turn stage asked reply after :=
    ∃ destination : Destination, (destination.serve stage.held asked).reply = reply ∧
      after = ⟨(destination.serve stage.held asked).held, stage.settled || (reply.isOk && errand.decides asked)⟩
  note stage _ := stage

def Concludes (result : Bool) (stage : Stage) : Prop := stage.settled = result

theorem isolation_notes (errand : Errand) (stage : Stage) (reports : List Report) :
    errand.isolation.notes stage reports = stage :=
  errand.isolation.notes_of_quiet (fun _ _ => rfl) stage reports

section

variable {asked : Request} {granted : asked.Answer → Stage → Prop} {refused : Failure → Stage → Prop}

theorem exchange_isolated (errand : Errand) (stage : Stage) (left : Option Connection) (gain : List Sent)
    (exchanges : Destination.Exchanges stage.held asked left gain)
    (gained : gain = if errand.decides asked then errand.block else [])
    (unsettled : stage.settled = false)
    (goal : ∀ answer, granted answer ⟨left, errand.decides asked⟩)
    (otherwise : ∀ failure, refused failure ⟨stage.held, false⟩) :
    errand.isolation.ready stage asked ∧
      (∀ answer after, errand.isolation.turn stage asked (.ok answer) after → granted answer after) ∧
      ∀ failure after, errand.isolation.turn stage asked (.error failure) after → refused failure after := by
  refine ⟨fun destination => ⟨?_, fun _ => unsettled⟩, ?_, ?_⟩
  · rw [(exchanges destination).1, gained]
    cases (destination.serve stage.held asked).reply.isOk <;> rfl
  · rintro answer after ⟨destination, replied, rfl⟩
    rw [(exchanges destination).2, replied, unsettled]
    exact goal answer
  · rintro failure after ⟨destination, replied, rfl⟩
    rw [(exchanges destination).2, replied, unsettled]
    exact otherwise failure

theorem quiet_isolated (errand : Errand) (stage : Stage) (keeps : Destination.KeepsLog stage.held asked)
    (undecided : errand.decides asked = false)
    (goal : ∀ answer held, granted answer ⟨held, stage.settled⟩)
    (otherwise : ∀ failure held, refused failure ⟨held, stage.settled⟩) :
    errand.isolation.ready stage asked ∧
      (∀ answer after, errand.isolation.turn stage asked (.ok answer) after → granted answer after) ∧
      ∀ failure after, errand.isolation.turn stage asked (.error failure) after → refused failure after := by
  refine ⟨fun destination => ?_, ?_, ?_⟩
  · simpa only [undecided, Bool.and_false, Bool.false_eq_true, if_false, List.append_nil, false_implies, and_true]
      using keeps destination
  · rintro answer after ⟨destination, -, rfl⟩
    rw [undecided, Bool.and_false, Bool.or_false]
    exact goal answer _
  · rintro failure after ⟨destination, -, rfl⟩
    rw [undecided, Bool.and_false, Bool.or_false]
    exact otherwise failure _

end

theorem connected_isolated (errand : Errand) (work : Dialogue Delivery.Outcome)
    (unacquired : errand.decides .acquire = false) (unreleased : errand.decides .release = false)
    (worked : work.Ensures errand.isolation (fun outcome stage => stage.settled = Delivery.succeeded outcome)
      ⟨some .fresh, false⟩) :
    (Delivery.connected work).Ensures errand.isolation
      (fun outcome stage => stage.settled = Delivery.succeeded outcome) ⟨none, false⟩ := by
  rw [Delivery.connected_ensures]
  refine exchange_isolated errand _ _ [] Destination.acquire_exchanges (by simp [unacquired]) rfl ?_ ?_
  · intro answer
    rw [unacquired]
    refine Dialogue.ensures_mono errand.isolation _ _ work _ ?_ worked
    intro outcome stage settled
    rw [Delivery.give_back_ensures]
    exact quiet_isolated errand stage (Destination.release_keeps_log stage.held) unreleased
      (fun _ _ => settled) (fun _ _ => settled)
  · exact fun failure => rfl

theorem single_isolated (task : String) (statement : Statement) :
    (Delivery.single task statement).Ensures (single statement).isolation Concludes ⟨none, false⟩ := by
  rw [Delivery.single_ensures]
  simp only [isolation_notes]
  refine connected_isolated _ _ rfl rfl ?_
  rw [Delivery.send_ensures]
  exact exchange_isolated _ _ _ [statement.sent] (Destination.execute_exchanges statement.sent) rfl rfl
    (fun _ => rfl) (fun _ => rfl)

-- Nothing is committed on the way: what was sent so far is staged, in order.
theorem send_all_isolated (task : String) (whole statements : List Statement) (staged : List Sent)
    (post : Delivery.Outcome → Stage → Prop)
    (all : post (.ok ()) ⟨some (.staging (staged ++ statements.map Statement.sent)), false⟩)
    (some_refused : ∀ error held, post (.error error) ⟨held, false⟩) :
    (Delivery.sendAll task statements).Ensures (atomic whole).isolation post ⟨some (.staging staged), false⟩ := by
  induction statements generalizing staged with
  | nil => rwa [List.map_nil, List.append_nil] at all
  | cons statement rest ih =>
    rw [Delivery.send_all_ensures, Delivery.send_ensures]
    refine exchange_isolated _ _ _ [] (Destination.stage_exchanges statement.sent staged) rfl rfl ?_ ?_
    · intro touched
      refine ih (staged ++ [statement.sent]) ?_
      rwa [List.map_cons, List.append_cons] at all
    · exact fun failure => some_refused _ _

theorem transaction_isolated (task : String) (statements : List Statement) :
    (Delivery.transaction task statements).Ensures (atomic statements).isolation
      (fun outcome stage => stage.settled = Delivery.succeeded outcome) ⟨some .fresh, false⟩ := by
  rw [Delivery.transaction_ensures]
  refine exchange_isolated _ _ _ [] Destination.begin_exchanges rfl rfl ?_ (fun _ => rfl)
  intro answer
  refine send_all_isolated task statements statements [] _ ?_ (fun _ _ => rfl)
  exact exchange_isolated _ _ _ _ (Destination.commit_exchanges _) rfl rfl (fun _ => rfl) (fun _ => rfl)

theorem atomic_isolated (task : String) (statements : List Statement) :
    (Delivery.atomic task statements).Ensures (atomic statements).isolation Concludes ⟨none, false⟩ := by
  rw [Delivery.atomic_ensures]
  simp only [isolation_notes]
  refine connected_isolated _ _ rfl rfl ?_
  rw [Dialogue.ensures_bind]
  refine Dialogue.ensures_mono _ _ _ _ _ ?_ (transaction_isolated task statements)
  intro outcome stage settled
  rw [Dialogue.ensures_bind]
  cases outcome with
  | ok done => exact settled
  | error error =>
    rw [Delivery.undo_ensures]
    exact quiet_isolated _ stage (Destination.rollback_keeps_log stage.held) rfl (fun _ _ => settled) (fun _ _ => settled)

theorem dialogue_isolated (errand : Errand) (task : String) :
    (errand.dialogue task).Ensures errand.isolation Concludes ⟨none, false⟩ := by
  cases errand with
  | single statement => exact single_isolated task statement
  | atomic statements => exact atomic_isolated task statements

end Errand

end ChangeApply
