import ChangeApply.JobWatch
import ChangeApply.Proofs.Conversation

set_option autoImplicit false

/- What a call asks of a destination that may reply anything. Whatever fails, the
   exchanges of a call have one of a few shapes. -/
namespace ChangeApply

structure Exchange where
  request : Request
  reply : request.Reply

namespace Exchange

def kind (exchange : Exchange) : Request.Kind := exchange.request.kind

def granted (exchange : Exchange) : Bool := exchange.reply.isOk

@[simp]
theorem kind_mk (asked : Request) (reply : asked.Reply) : (mk asked reply).kind = asked.kind := rfl

@[simp]
theorem granted_ok (asked : Request) (answer : asked.Answer) : (mk asked (.ok answer)).granted = true := rfl

@[simp]
theorem granted_error (asked : Request) (failure : Failure) : (mk asked (.error failure)).granted = false := rfl

def acquired (answer : Request.acquire.Answer) : Exchange := ⟨.acquire, .ok answer⟩

def opened (answer : (Request.setAutoCommit false).Answer) : Exchange := ⟨.setAutoCommit false, .ok answer⟩

@[simp]
theorem kind_acquired (answer : Request.acquire.Answer) : (acquired answer).kind = .acquire := rfl

@[simp]
theorem granted_acquired (answer : Request.acquire.Answer) : (acquired answer).granted = true := rfl

@[simp]
theorem kind_opened (answer : (Request.setAutoCommit false).Answer) : (opened answer).kind = .setAutoCommit := rfl

@[simp]
theorem granted_opened (answer : (Request.setAutoCommit false).Answer) : (opened answer).granted = true := rfl

end Exchange

abbrev Oracle := List Exchange → (asked : Request) → asked.Reply

structure Answered (α : Type) where
  result : α
  exchanges : List Exchange

def Dialogue.answered {α : Type} (oracle : Oracle) (heard : List Exchange) : Dialogue α → Answered α
  | .done result => ⟨result, heard⟩
  | .report _ next => next.answered oracle heard
  | .ask asked next => (next (oracle heard asked)).answered oracle (heard ++ [⟨asked, oracle heard asked⟩])

def anyReply : World (List Exchange) where
  ready _ _ := True
  turn heard asked reply after := after = heard ++ [⟨asked, reply⟩]
  note heard _ := heard

theorem Dialogue.answered_of_ensures {α : Type} (oracle : Oracle) (post : α → List Exchange → Prop)
    (dialogue : Dialogue α) (heard : List Exchange) (ensured : dialogue.Ensures anyReply post heard) :
    post (dialogue.answered oracle heard).result (dialogue.answered oracle heard).exchanges := by
  induction dialogue generalizing heard with
  | done result => exact ensured
  | report note rest ih => exact ih heard ensured
  | ask asked rest ih => exact ih (oracle heard asked) _ (ensured.2 (oracle heard asked) _ rfl)

theorem any_reply_notes (heard : List Exchange) (reports : List Report) : anyReply.notes heard reports = heard :=
  anyReply.notes_of_quiet (fun _ _ => rfl) heard reports

inductive Sending : List Statement → List Exchange → Bool → Prop where
  | finished : Sending [] [] true
  | refused (statement : Statement) (rest : List Statement) (failure : Failure) :
    Sending (statement :: rest) [⟨.execute statement.sent, .error failure⟩] false
  | granted (statement : Statement) (rest : List Statement) (touched : (Request.execute statement.sent).Answer)
    (later : List Exchange) (all : Bool) (sent : Sending rest later all) :
    Sending (statement :: rest) (⟨.execute statement.sent, .ok touched⟩ :: later) all

open Exchange (acquired opened)

inductive Transacting (statements : List Statement) : List Exchange → Bool → Prop where
  | unopened (failure : Failure) (undone : Request.rollback.Reply) :
    Transacting statements [⟨.setAutoCommit false, .error failure⟩, ⟨.rollback, undone⟩] false
  | broken (answer : (Request.setAutoCommit false).Answer) (sent : List Exchange) (undone : Request.rollback.Reply)
    (sending : Sending statements sent false) :
    Transacting statements (opened answer :: sent ++ [⟨.rollback, undone⟩]) false
  | uncommitted (answer : (Request.setAutoCommit false).Answer) (sent : List Exchange) (failure : Failure)
    (undone : Request.rollback.Reply) (sending : Sending statements sent true) :
    Transacting statements (opened answer :: sent ++ [⟨.commit, .error failure⟩, ⟨.rollback, undone⟩]) false
  | committed (answer : (Request.setAutoCommit false).Answer) (sent : List Exchange) (kept : Request.commit.Answer)
    (sending : Sending statements sent true) :
    Transacting statements (opened answer :: sent ++ [⟨.commit, .ok kept⟩]) true

inductive Holding (work : List Exchange → Bool → Prop) : List Exchange → Bool → Prop where
  | turnedAway (failure : Failure) : Holding work [⟨.acquire, .error failure⟩] false
  | held (answer : Request.acquire.Answer) (middle : List Exchange) (ok : Bool) (given : Request.release.Reply)
    (worked : work middle ok) : Holding work (acquired answer :: middle ++ [⟨.release, given⟩]) ok

namespace Delivery

open Dialogue

theorem send_any_reply (task : String) (statement : Statement) (post : Outcome → List Exchange → Prop)
    (heard : List Exchange)
    (granted : ∀ touched, post (.ok ()) (heard ++ [⟨.execute statement.sent, .ok touched⟩]))
    (refused : ∀ failure error, post (.error error) (heard ++ [⟨.execute statement.sent, .error failure⟩])) :
    (send task statement).Ensures anyReply post heard := by
  rw [send_ensures]
  refine ⟨trivial, ?_, ?_⟩
  · rintro touched after rfl
    exact granted touched
  · rintro failure after rfl
    exact refused failure _

theorem send_all_any_reply (task : String) (statements : List Statement) (post : Outcome → List Exchange → Prop)
    (heard : List Exchange)
    (ended : ∀ sent outcome, Sending statements sent (succeeded outcome) → post outcome (heard ++ sent)) :
    (sendAll task statements).Ensures anyReply post heard := by
  induction statements generalizing heard with
  | nil =>
    have done := ended [] (.ok ()) .finished
    rwa [List.append_nil] at done
  | cons statement rest ih =>
    rw [send_all_ensures]
    refine send_any_reply task statement _ heard ?_ ?_
    · intro touched
      refine ih _ fun later outcome sent => ?_
      have done := ended _ outcome (.granted statement rest touched later _ sent)
      rwa [List.append_cons] at done
    · intro failure error
      exact ended _ (.error error) (.refused statement rest failure)

theorem give_back_any_reply (reporter : Log.Target) (post : Unit → List Exchange → Prop) (heard : List Exchange)
    (given : ∀ reply, post () (heard ++ [⟨.release, reply⟩])) : (giveBack reporter).Ensures anyReply post heard := by
  rw [give_back_ensures]
  refine ⟨trivial, ?_, ?_⟩
  · rintro answer after rfl
    exact given (.ok answer)
  · rintro failure after rfl
    exact given (.error failure)

theorem connected_any_reply (shape : List Exchange → Bool → Prop) (work : Dialogue Outcome)
    (post : Outcome → List Exchange → Prop) (heard : List Exchange)
    (worked : ∀ start, work.Ensures anyReply (fun outcome after =>
      ∃ middle, after = start ++ middle ∧ shape middle (succeeded outcome)) start)
    (ended : ∀ exchanges outcome, Holding shape exchanges (succeeded outcome) → post outcome (heard ++ exchanges)) :
    (connected work).Ensures anyReply post heard := by
  rw [connected_ensures]
  refine ⟨trivial, ?_, ?_⟩
  · rintro answer start rfl
    refine Dialogue.ensures_mono anyReply _ _ work _ ?_ (worked _)
    rintro outcome after ⟨middle, rfl, shaped⟩
    refine give_back_any_reply .executor _ _ fun given => ?_
    have done := ended _ outcome (.held answer middle _ given shaped)
    simpa only [acquired, List.append_assoc, List.cons_append, List.nil_append] using done
  · rintro failure after rfl
    exact ended _ (.error (.acquire failure)) (.turnedAway failure)

theorem undo_any_reply (task table : String) (error : DeliveryError) (post : Outcome → List Exchange → Prop)
    (heard : List Exchange) (undone : ∀ reply, post (.error error) (heard ++ [⟨.rollback, reply⟩])) :
    (undo task table (.error error) >>= fun _ => pure (.error error)).Ensures anyReply post heard := by
  rw [ensures_bind, undo_ensures]
  refine ⟨trivial, ?_, ?_⟩
  · rintro answer after rfl
    exact undone (.ok answer)
  · rintro failure after rfl
    exact undone (.error failure)

theorem transaction_any_reply (task table : String) (statements : List Statement) (heard : List Exchange) :
    (transaction task statements >>= fun outcome => undo task table outcome >>= fun _ => pure outcome).Ensures anyReply
      (fun outcome after => ∃ middle, after = heard ++ middle ∧ Transacting statements middle (succeeded outcome)) heard := by
  rw [ensures_bind, transaction_ensures]
  refine ⟨trivial, ?_, ?_⟩
  · rintro answer start rfl
    refine send_all_any_reply task statements _ _ fun sent outcome sending => ?_
    cases outcome with
    | error error =>
      refine undo_any_reply task table error _ _ fun reply => ⟨_, ?_, .broken answer sent reply sending⟩
      simp [opened]
    | ok done =>
      refine ⟨trivial, ?_, ?_⟩
      · rintro kept after rfl
        refine ⟨_, ?_, .committed answer sent kept sending⟩
        simp [opened]
      · rintro failure after rfl
        refine undo_any_reply task table _ _ _ fun reply => ⟨_, ?_, .uncommitted answer sent failure reply sending⟩
        simp [opened]
  · rintro failure start rfl
    refine undo_any_reply task table _ _ _ fun reply => ⟨_, ?_, .unopened failure reply⟩
    simp

theorem single_any_reply (task : String) (statement : Statement) (oracle : Oracle) :
    let made := (single task statement).answered oracle []
    Holding (Sending [statement]) made.exchanges made.result := by
  refine answered_of_ensures oracle (fun result exchanges => Holding (Sending [statement]) exchanges result) _ [] ?_
  rw [single_ensures]
  refine connected_any_reply (Sending [statement]) _ _ [] (fun start => ?_) fun exchanges outcome held => ?_
  · refine send_any_reply task statement _ start (fun touched => ⟨_, rfl, ?_⟩) fun failure error => ⟨_, rfl, ?_⟩
    · exact .granted statement [] touched [] true .finished
    · exact .refused statement [] failure
  · rwa [any_reply_notes, List.nil_append]

theorem atomic_any_reply (task : String) (statements : List Statement) (oracle : Oracle) :
    let made := (atomic task statements).answered oracle []
    Holding (Transacting statements) made.exchanges made.result := by
  refine answered_of_ensures oracle (fun result exchanges => Holding (Transacting statements) exchanges result) _ [] ?_
  rw [atomic_ensures]
  refine connected_any_reply (Transacting statements) _ _ [] (fun start => ?_) fun exchanges outcome held => ?_
  · exact transaction_any_reply task (firstTable statements) statements start
  · rwa [any_reply_notes, List.nil_append]

theorem ddl_any_reply (task : String) (ddl : DdlStatement) (oracle : Oracle) :
    let made := (sendDdl task ddl).answered oracle []
    Holding (Sending (ddlStatements ddl)) made.exchanges made.result := by
  refine answered_of_ensures oracle (fun result exchanges => Holding (Sending (ddlStatements ddl)) exchanges result) _ [] ?_
  rw [sendDdl, ensures_bind, ensures_log, ensures_bind]
  simp only [settle_ensures]
  refine connected_any_reply (Sending (ddlStatements ddl)) _ _ [] (fun start => ?_) fun exchanges outcome held => ?_
  · exact send_all_any_reply task (ddlStatements ddl) _ start fun sent outcome sending => ⟨sent, rfl, sending⟩
  · rwa [any_reply_notes, List.nil_append]

end Delivery

def Asking (query : String) (exchanges : List Exchange) (ok : Bool) : Prop :=
  ∃ reply : (Request.query query).Reply, exchanges = [⟨.query query, reply⟩] ∧ ok = reply.isOk

namespace JobWatch

open Dialogue
open Exchange (acquired)

theorem listing_any_reply (query : String) (post : Except Failure (List ResultRow) → List Exchange → Prop)
    (heard : List Exchange)
    (ended : ∀ exchanges rows, Holding (Asking query) exchanges rows.isOk → post rows (heard ++ exchanges)) :
    (listing query).Ensures anyReply post heard := by
  rw [listing, ensures_request_bind]
  refine ⟨trivial, ?_, ?_⟩
  · rintro answer start rfl
    refine (ensures_bind anyReply post (request (.query query)) _ _).mpr ⟨trivial, ?_⟩
    rintro rows after rfl
    refine (ensures_bind anyReply post (Delivery.giveBack .ddlTracker) _ _).mpr ?_
    refine Delivery.give_back_any_reply .ddlTracker _ _ fun given => ?_
    have done := ended _ rows (.held answer [⟨.query query, rows⟩] _ given ⟨rows, rfl, rfl⟩)
    refine (ensures_pure anyReply post rows _).mpr ?_
    simpa only [acquired, List.append_assoc, List.cons_append, List.nil_append] using done
  · rintro failure after rfl
    exact ended _ (.error failure) (.turnedAway failure)

theorem poll_any_reply (query token : String) (oracle : Oracle) :
    let made := (poll query token).answered oracle []
    Holding (Asking query) made.exchanges made.result.isOk := by
  refine answered_of_ensures oracle
    (fun (result : Except DeliveryError JobOutcome) exchanges => Holding (Asking query) exchanges result.isOk) _ [] ?_
  rw [poll, ensures_bind]
  refine listing_any_reply query _ [] fun exchanges rows held => ?_
  cases rows with
  | error failure => exact held
  | ok rows => exact held

end JobWatch

end ChangeApply
