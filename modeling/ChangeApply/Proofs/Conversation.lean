import ChangeApply.Delivery

set_option autoImplicit false

/- What a dialogue brings about in a world that answers it. The world may be one store,
   any store at all, or an oracle: a statement about a dialogue is made once for each
   way of asking and holds under whatever the world replies. -/
namespace ChangeApply

-- `ready` is owed before a request, `turn` relates it to the replies it can meet and to
-- the state each leaves, `note` keeps what is reported.
structure World (σ : Type) where
  ready : σ → Request → Prop
  turn : σ → (asked : Request) → asked.Reply → σ → Prop
  note : σ → Report → σ

def World.notes {σ : Type} (world : World σ) (state : σ) (reports : List Report) : σ :=
  reports.foldl world.note state

theorem World.notes_of_quiet {σ : Type} (world : World σ) (quiet : ∀ state report, world.note state report = state)
    (state : σ) (reports : List Report) : world.notes state reports = state := by
  induction reports with
  | nil => rfl
  | cons report rest ih => rw [notes, List.foldl_cons, quiet]; exact ih

def World.Meets {σ : Type} (world : World σ) (state : σ) (asked : Request) (reply : asked.Reply)
    (after : σ) : Prop :=
  ∀ other later, world.turn state asked other later → other = reply ∧ later = after

section

variable {σ : Type} {world : World σ} {state after : σ} {asked : Request}
variable {granted : asked.Answer → σ → Prop} {refused : Failure → σ → Prop}

theorem World.only_granted (answer : asked.Answer) (ready : world.ready state asked)
    (meets : world.Meets state asked (.ok answer) after) (goal : granted answer after) :
    world.ready state asked ∧
      (∀ answer after, world.turn state asked (.ok answer) after → granted answer after) ∧
      ∀ failure after, world.turn state asked (.error failure) after → refused failure after := by
  refine ⟨ready, fun other later turned => ?_, fun failure later turned => ?_⟩
  · obtain ⟨same, rfl⟩ := meets _ _ turned
    cases same
    exact goal
  · cases (meets _ _ turned).1

theorem World.only_refused (failure : Failure) (ready : world.ready state asked)
    (meets : world.Meets state asked (.error failure) after) (goal : refused failure after) :
    world.ready state asked ∧
      (∀ answer after, world.turn state asked (.ok answer) after → granted answer after) ∧
      ∀ failure after, world.turn state asked (.error failure) after → refused failure after := by
  refine ⟨ready, fun answer later turned => ?_, fun other later turned => ?_⟩
  · cases (meets _ _ turned).1
  · obtain ⟨same, rfl⟩ := meets _ _ turned
    cases same
    exact goal

end

namespace Dialogue

variable {α β σ : Type}

def Ensures (world : World σ) (post : α → σ → Prop) : Dialogue α → σ → Prop
  | .done result, state => post result state
  | .report note next, state => next.Ensures world post (world.note state note)
  | .ask asked next, state =>
    world.ready state asked ∧
      ∀ reply after, world.turn state asked reply after → (next reply).Ensures world post after

theorem ensures_pure (world : World σ) (post : α → σ → Prop) (result : α) (state : σ) :
    (pure result : Dialogue α).Ensures world post state ↔ post result state :=
  Iff.rfl

theorem ensures_bind (world : World σ) (post : β → σ → Prop) (dialogue : Dialogue α)
    (next : α → Dialogue β) (state : σ) :
    (dialogue >>= next).Ensures world post state ↔
      dialogue.Ensures world (fun result after => (next result).Ensures world post after) state := by
  change (dialogue.bind next).Ensures world post state ↔ _
  induction dialogue generalizing state with
  | done result => rfl
  | report note rest ih => exact ih (world.note state note)
  | ask asked rest ih => simp only [bind, Ensures, ih]

theorem ensures_request (world : World σ) (asked : Request) (post : asked.Reply → σ → Prop) (state : σ) :
    (request asked).Ensures world post state ↔
      world.ready state asked ∧ ∀ reply after, world.turn state asked reply after → post reply after :=
  Iff.rfl

theorem ensures_request_bind (world : World σ) (asked : Request) (next : asked.Reply → Dialogue α)
    (post : α → σ → Prop) (state : σ) :
    (request asked >>= next).Ensures world post state ↔
      world.ready state asked ∧
        (∀ answer after, world.turn state asked (.ok answer) after → (next (.ok answer)).Ensures world post after) ∧
        ∀ failure after, world.turn state asked (.error failure) after →
          (next (.error failure)).Ensures world post after := by
  rw [ensures_bind, ensures_request]
  refine and_congr_right fun _ => ⟨fun all => ⟨fun answer => all (.ok answer), fun failure => all (.error failure)⟩, ?_⟩
  rintro ⟨granted, refused⟩ reply after turned
  cases reply with
  | ok answer => exact granted answer after turned
  | error failure => exact refused failure after turned

theorem ensures_log (world : World σ) (event : Log.Event) (post : Unit → σ → Prop) (state : σ) :
    (log event).Ensures world post state ↔ post () (world.note state (.logged event)) :=
  Iff.rfl

theorem ensures_mono (world : World σ) (weak strong : α → σ → Prop) (dialogue : Dialogue α) (state : σ)
    (implied : ∀ result after, strong result after → weak result after)
    (ensured : dialogue.Ensures world strong state) : dialogue.Ensures world weak state := by
  induction dialogue generalizing state with
  | done result => exact implied result state ensured
  | report note rest ih => exact ih (world.note state note) ensured
  | ask asked rest ih =>
    obtain ⟨ready, next⟩ := ensured
    exact ⟨ready, fun reply after turned => ih reply after (next reply after turned)⟩

end Dialogue

def Statement.sent (statement : Statement) : Sent := ⟨statement.sql, statement.params⟩

namespace Delivery

open Dialogue

def announcement (task : String) (statement : Statement) : Report :=
  .logged (.executing task statement.sql (Value.listText statement.params))

def lament (task : String) (statement : Statement) : Report :=
  .logged (.statementFailed task statement.table statement.sql (Value.listText statement.params))

def complaint (task table : String) (error : DeliveryError) : List Report :=
  [.logged (.applyFailed task table error.message), .failed task error.message]

def closing (task table : String) (counter : Bool → Counter) (outcome : Outcome) : List Report :=
  .counted (counter (succeeded outcome)) ::
    match outcome with
    | .ok () => []
    | .error error => complaint task table error

variable {σ : Type} (world : World σ)

theorem send_ensures (task : String) (statement : Statement) (post : Outcome → σ → Prop) (state : σ) :
    (send task statement).Ensures world post state ↔
      let announced := world.note state (announcement task statement)
      world.ready announced (.execute statement.sent) ∧
        (∀ touched after, world.turn announced (.execute statement.sent) (.ok touched) after →
          post (.ok ()) after) ∧
        ∀ failure after, world.turn announced (.execute statement.sent) (.error failure) after →
          post (.error (.execute statement.sql failure)) (world.note after (lament task statement)) := by
  simp only [send, ensures_bind, ensures_log]
  exact ensures_request_bind world _ _ post _

theorem send_all_ensures (task : String) (statement : Statement) (rest : List Statement)
    (post : Outcome → σ → Prop) (state : σ) :
    (sendAll task (statement :: rest)).Ensures world post state ↔
      (send task statement).Ensures world (fun outcome after =>
        match outcome with
        | .ok () => (sendAll task rest).Ensures world post after
        | .error error => post (.error error) after) state := by
  rw [sendAll, ensures_bind]
  refine iff_of_eq (congrArg (fun goal => (send task statement).Ensures world goal state) ?_)
  funext outcome after
  cases outcome <;> rfl

theorem transaction_ensures (task : String) (statements : List Statement) (post : Outcome → σ → Prop) (state : σ) :
    (transaction task statements).Ensures world post state ↔
      world.ready state (.setAutoCommit false) ∧
        (∀ answer after, world.turn state (.setAutoCommit false) (.ok answer) after →
          (sendAll task statements).Ensures world (fun outcome later =>
            match outcome with
            | .error error => post (.error error) later
            | .ok () => world.ready later .commit ∧
                (∀ answer last, world.turn later .commit (.ok answer) last → post (.ok ()) last) ∧
                ∀ failure last, world.turn later .commit (.error failure) last →
                  post (.error (.commit failure)) last) after) ∧
        ∀ failure after, world.turn state (.setAutoCommit false) (.error failure) after →
          post (.error (.autoCommit failure)) after := by
  rw [transaction, ensures_request_bind]
  refine and_congr_right fun _ => and_congr ?_ Iff.rfl
  refine forall_congr' fun answer => forall_congr' fun after => imp_congr_right fun _ => ?_
  rw [ensures_bind]
  refine iff_of_eq (congrArg (fun goal => (sendAll task statements).Ensures world goal after) ?_)
  funext outcome later
  cases outcome with
  | error error => rfl
  | ok done => exact propext (ensures_request_bind world _ _ post later)

theorem undo_ensures (task table : String) (error : DeliveryError) (post : Unit → σ → Prop) (state : σ) :
    (undo task table (.error error)).Ensures world post state ↔
      world.ready state .rollback ∧
        (∀ answer after, world.turn state .rollback (.ok answer) after → post () after) ∧
        ∀ failure after, world.turn state .rollback (.error failure) after →
          post () (world.note after (.logged (.rollbackFailed task table (DeliveryError.rollback failure).message))) :=
  ensures_request_bind world _ _ post state

theorem give_back_ensures (reporter : Log.Target) (post : Unit → σ → Prop) (state : σ) :
    (giveBack reporter).Ensures world post state ↔
      world.ready state .release ∧
        (∀ answer after, world.turn state .release (.ok answer) after → post () after) ∧
        ∀ failure after, world.turn state .release (.error failure) after →
          post () (world.note after (.logged (.releaseFailed reporter failure.text))) :=
  ensures_request_bind world _ _ post state

theorem connected_ensures (work : Dialogue Outcome) (post : Outcome → σ → Prop) (state : σ) :
    (connected work).Ensures world post state ↔
      world.ready state .acquire ∧
        (∀ answer after, world.turn state .acquire (.ok answer) after →
          work.Ensures world (fun outcome later =>
            (giveBack .executor).Ensures world (fun _ last => post outcome last) later) after) ∧
        ∀ failure after, world.turn state .acquire (.error failure) after →
          post (.error (.acquire failure)) after := by
  rw [connected, ensures_request_bind]
  refine and_congr_right fun _ => and_congr ?_ Iff.rfl
  refine forall_congr' fun answer => forall_congr' fun after => imp_congr_right fun _ => ?_
  rw [ensures_bind]
  simp only [ensures_bind, ensures_pure]

theorem settle_ensures (task table : String) (counter : Bool → Counter) (outcome : Outcome)
    (post : Bool → σ → Prop) (state : σ) :
    (settle task table counter outcome).Ensures world post state ↔
      post (succeeded outcome) (world.notes state (closing task table counter outcome)) := by
  cases outcome <;> rfl

theorem single_ensures (task : String) (statement : Statement) (post : Bool → σ → Prop) (state : σ) :
    (single task statement).Ensures world post state ↔
      (connected (send task statement)).Ensures world (fun outcome after =>
        post (succeeded outcome) (world.notes after (closing task statement.table .statements outcome))) state := by
  simp only [single, ensures_bind, settle_ensures]

theorem atomic_ensures (task : String) (statements : List Statement) (post : Bool → σ → Prop) (state : σ) :
    (atomic task statements).Ensures world post state ↔
      (connected (transaction task statements >>= fun outcome =>
        undo task (firstTable statements) outcome >>= fun _ => pure outcome)).Ensures world (fun outcome after =>
          post (succeeded outcome)
            (world.notes after (closing task (firstTable statements) .transactions outcome))) state := by
  simp only [atomic, ensures_bind, settle_ensures]

theorem log_all_ensures (events : List Log.Event) (post : Unit → σ → Prop) (state : σ) :
    (logAll events).Ensures world post state ↔ post () (world.notes state (events.map .logged)) := by
  induction events generalizing state with
  | nil => rfl
  | cons event rest ih => rw [logAll, ensures_bind, ensures_log, ih]; rfl

end Delivery

end ChangeApply
