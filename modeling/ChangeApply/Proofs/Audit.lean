import ChangeApply.Proofs.Conversation
import ChangeApply.Destination.Serve
import ChangeApply.JobWatch

set_option autoImplicit false

/- Which of a call's reports are counted or kept: none until its connection is gone, and
   then those of its outcome. A call that never comes to an end leaves none. -/
namespace ChangeApply

def Log.Event.complaint? : Log.Event → Option (String × String)
  | .applyFailed task _ error => some (task, error)
  | _ => none

namespace Report

def complaint? (report : Report) : Option (String × String) := report.event?.bind Log.Event.complaint?

def decisive (report : Report) : Bool :=
  report.counter?.isSome || report.failure?.isSome || report.complaint?.isSome

theorem filter_map_decisive {α : Type} (read : Report → Option α) (reports : List Report)
    (only : ∀ report, report.decisive = false → read report = none) :
    (reports.filter decisive).filterMap read = reports.filterMap read := by
  induction reports with
  | nil => rfl
  | cons report rest ih =>
    cases kept : report.decisive with
    | true => rw [List.filter_cons_of_pos kept, List.filterMap_cons, List.filterMap_cons, ih]
    | false => rw [List.filter_cons_of_neg (by simp [kept]), List.filterMap_cons_none (only report kept), ih]

end Report

-- Nothing decisive is reported while a request is to be made, and only one who is busy
-- makes any.
def audit (busy : Prop) : World (List Report) where
  ready kept _ := kept = [] ∧ busy
  turn kept _ _ after := after = kept
  note kept report := kept ++ [report].filter Report.decisive

theorem audit_notes (busy : Prop) (kept reports : List Report) :
    (audit busy).notes kept reports = kept ++ reports.filter Report.decisive := by
  induction reports generalizing kept with
  | nil => exact (List.append_nil kept).symm
  | cons report rest ih =>
    have further := ih ((audit busy).note kept report)
    rw [World.notes, List.foldl_cons, ← World.notes, further]
    exact (List.append_assoc _ _ _).trans (congrArg (kept ++ ·) (List.filter_append ..).symm)

theorem request_audited {busy : Prop} {asked : Request} {granted : asked.Answer → List Report → Prop}
    {refused : Failure → List Report → Prop} (working : busy) (on_grant : ∀ answer, granted answer [])
    (on_refusal : ∀ failure, refused failure []) :
    (audit busy).ready [] asked ∧
      (∀ answer after, (audit busy).turn [] asked (.ok answer) after → granted answer after) ∧
      ∀ failure after, (audit busy).turn [] asked (.error failure) after → refused failure after := by
  refine ⟨⟨rfl, working⟩, ?_, ?_⟩
  · rintro answer after rfl
    exact on_grant answer
  · rintro failure after rfl
    exact on_refusal failure

namespace Dialogue

variable {α : Type}

theorem run_from_audited (busy : Prop) (post : α → List Report → Prop) (dialogue : Dialogue α)
    (held : Option Connection) (destination : Destination) (kept : List Report)
    (ensured : dialogue.Ensures (audit busy) post kept) :
    let run := dialogue.runFrom held destination
    (∃ result, run.result = some result ∧ post result (kept ++ run.reports.filter Report.decisive)) ∨
      run.result = none ∧ kept ++ run.reports.filter Report.decisive = [] ∧ busy := by
  induction dialogue generalizing held destination kept with
  | done result =>
    refine .inl ⟨result, rfl, ?_⟩
    change post result (kept ++ [])
    rwa [List.append_nil]
  | report note rest ih =>
    have later := ih held destination _ ensured
    have joined : kept ++ (note :: (rest.runFrom held destination).reports).filter Report.decisive =
        (kept ++ [note].filter Report.decisive) ++ (rest.runFrom held destination).reports.filter Report.decisive := by
      rw [List.append_assoc, ← List.filter_append]
      rfl
    simp only [runFrom, joined]
    exact later
  | ask asked rest ih =>
    obtain ⟨⟨unreported, working⟩, next⟩ := ensured
    rw [runFrom]
    by_cases stalled : destination.stalls held asked = true
    · rw [if_pos stalled]
      exact .inr ⟨rfl, (List.append_nil kept).trans unreported, working⟩
    · rw [if_neg stalled]
      exact ih _ _ _ _ (next _ _ rfl)

end Dialogue

namespace Delivery

open Dialogue

/-- The decisive reports of a call that had something to ask of the destination. -/
def Closes (task : String) (granted : Bool) (reports : List Report) : Prop :=
  ∃ table counter outcome, (counter = Counter.statements ∨ counter = Counter.transactions) ∧
    granted = succeeded outcome ∧ reports = closing task table counter outcome

variable {busy : Prop}

theorem closes (task table : String) (counter : Bool → Counter) (outcome : Outcome)
    (either : counter = Counter.statements ∨ counter = Counter.transactions) :
    Closes task (succeeded outcome) ((audit busy).notes [] (closing task table counter outcome)) := by
  refine ⟨table, counter, outcome, either, rfl, ?_⟩
  rw [audit_notes]
  cases outcome <;> rfl

theorem send_audited (task : String) (statement : Statement) (post : Outcome → List Report → Prop) (working : busy)
    (ended : ∀ outcome, post outcome []) : (send task statement).Ensures (audit busy) post [] := by
  rw [send_ensures]
  exact request_audited working (fun _ => ended (.ok ())) (fun _ => ended _)

theorem send_all_audited (task : String) (statements : List Statement) (post : Outcome → List Report → Prop)
    (working : busy) (ended : ∀ outcome, post outcome []) : (sendAll task statements).Ensures (audit busy) post [] := by
  induction statements with
  | nil => exact ended (.ok ())
  | cons statement rest ih =>
    rw [send_all_ensures]
    refine send_audited task statement _ working fun outcome => ?_
    cases outcome with
    | ok done => exact ih
    | error error => exact ended (.error error)

theorem transaction_audited (task : String) (statements : List Statement) (post : Outcome → List Report → Prop)
    (working : busy) (ended : ∀ outcome, post outcome []) :
    (transaction task statements).Ensures (audit busy) post [] := by
  rw [transaction_ensures]
  refine request_audited working (fun answer => ?_) (fun _ => ended _)
  refine send_all_audited task statements _ working fun outcome => ?_
  cases outcome with
  | error error => exact ended (.error error)
  | ok done => exact request_audited working (fun _ => ended (.ok ())) (fun _ => ended _)

theorem undo_audited (task table : String) (outcome : Outcome) (post : Unit → List Report → Prop) (working : busy)
    (ended : post () []) : (undo task table outcome).Ensures (audit busy) post [] := by
  cases outcome with
  | ok done => exact ended
  | error error =>
    rw [undo_ensures]
    exact request_audited working (fun _ => ended) (fun _ => ended)

theorem give_back_audited (reporter : Log.Target) (post : Unit → List Report → Prop) (working : busy)
    (ended : post () []) : (giveBack reporter).Ensures (audit busy) post [] := by
  rw [give_back_ensures]
  exact request_audited working (fun _ => ended) (fun _ => ended)

theorem connected_audited (work : Dialogue Outcome) (post : Outcome → List Report → Prop) (working : busy)
    (worked : ∀ after : Outcome → List Report → Prop, (∀ outcome, after outcome []) →
      work.Ensures (audit busy) after [])
    (ended : ∀ outcome, post outcome []) : (connected work).Ensures (audit busy) post [] := by
  rw [connected_ensures]
  refine request_audited working (fun answer => ?_) (fun _ => ended _)
  exact worked _ fun outcome => give_back_audited .executor _ working (ended outcome)

theorem single_audited (task : String) (statement : Statement) (working : busy) :
    (single task statement).Ensures (audit busy) (Closes task) [] := by
  rw [single_ensures]
  refine connected_audited _ _ working (fun after => send_audited task statement after working) fun outcome => ?_
  exact closes task statement.table .statements outcome (.inl rfl)

theorem atomic_audited (task : String) (statements : List Statement) (working : busy) :
    (atomic task statements).Ensures (audit busy) (Closes task) [] := by
  rw [atomic_ensures]
  refine connected_audited _ _ working (fun after ended => ?_) fun outcome => ?_
  · rw [ensures_bind]
    refine transaction_audited task statements _ working fun outcome => ?_
    rw [ensures_bind]
    exact undo_audited task (firstTable statements) outcome _ working (ended outcome)
  · exact closes task (firstTable statements) .transactions outcome (.inr rfl)

theorem send_ddl_audited (task : String) (ddl : DdlStatement) (working : busy) :
    (sendDdl task ddl).Ensures (audit busy) (Closes task) [] := by
  rw [sendDdl, ensures_bind, ensures_log, ensures_bind]
  simp only [settle_ensures]
  refine connected_audited _ _ working (fun after => send_all_audited task (ddlStatements ddl) after working) ?_
  exact fun outcome => closes task ddl.schema .statements outcome (.inl rfl)

/-- The decisive reports of a call by its plan. A call with nothing to send has none, and a
change that has no plan is complained about. -/
inductive Settles (task : String) : Except ChangeFault Plan → Bool → List Report → Prop
  | idle (plan : Plan) (empty : plan.isEmpty = true) : Settles task (.ok plan) true []
  | unfit (table : String) (fault : ChangeFault) :
    Settles task (.error fault) false (complaint task table (.change fault))
  | sent (plan : Plan) (granted : Bool) (reports : List Report) (some_statements : plan.isEmpty = false)
    (closes : Closes task granted reports) : Settles task (.ok plan) granted reports

def Sends (plan : Except ChangeFault Plan) : Prop := ∃ fit, plan = .ok fit ∧ fit.isEmpty = false

theorem deliver_audited (task : String) (plan : Plan) :
    (deliver task plan).Ensures (audit (Sends (.ok plan))) (Settles task (.ok plan)) [] := by
  have sent (dialogue : Dialogue Bool) (some_statements : plan.isEmpty = false)
      (audited : Sends (.ok plan) → dialogue.Ensures (audit (Sends (.ok plan))) (Closes task) []) :
      dialogue.Ensures (audit (Sends (.ok plan))) (Settles task (.ok plan)) [] :=
    ensures_mono _ _ _ dialogue [] (fun granted reports => .sent plan granted reports some_statements)
      (audited ⟨plan, rfl, some_statements⟩)
  match plan with
  | .statements [] => exact .idle _ rfl
  | .statements [statement] => exact sent _ rfl (single_audited task statement)
  | .statements (first :: second :: rest) => exact sent _ rfl (atomic_audited task (first :: second :: rest))
  | .merged statement => exact sent _ rfl (single_audited task statement.toStatement)

theorem plan_events_indecisive (change : RowChange) (table : Table) :
    ((planEvents change table).map Report.logged).filter Report.decisive = [] := by
  refine List.filter_eq_nil_iff.mpr fun report member => ?_
  obtain ⟨event, listed, rfl⟩ := List.mem_map.mp member
  rw [planEvents] at listed
  split at listed
  · obtain ⟨row, -, rfl⟩ := List.mem_map.mp listed
    exact Bool.false_ne_true
  · cases listed

theorem deliver_change_audited (policy : Policy) (task : String) (change : RowChange) (table : Table)
    (plan : Except ChangeFault Plan) (planned : Plan.ofChange change table policy = plan) :
    (deliverChange policy task change table).Ensures (audit (Sends plan)) (Settles task plan) [] := by
  rw [deliverChange, ensures_bind, log_all_ensures, audit_notes, plan_events_indecisive, planned]
  cases plan with
  | ok fit => exact deliver_audited task fit
  | error fault => exact .unfit table.name fault

end Delivery

namespace JobWatch

open Dialogue

theorem listing_audited (query : String) (post : Except Failure (List ResultRow) → List Report → Prop)
    (ended : ∀ rows, post rows []) : (listing query).Ensures (audit True) post [] := by
  rw [listing, ensures_request_bind]
  refine request_audited trivial (fun answer => ?_) (fun failure => ended (.error failure))
  refine (ensures_bind _ _ (request (.query query)) _ _).mpr ⟨⟨rfl, trivial⟩, ?_⟩
  rintro rows after rfl
  refine (ensures_bind _ _ (Delivery.giveBack .ddlTracker) _ _).mpr ?_
  exact Delivery.give_back_audited .ddlTracker _ trivial (ended rows)

theorem poll_audited (query token : String) :
    (poll query token).Ensures (audit True) (fun _ reports => reports = []) [] := by
  rw [poll, ensures_bind]
  refine listing_audited query _ fun rows => ?_
  cases rows with
  | error failure => exact rfl
  | ok rows => exact rfl

end JobWatch

end ChangeApply
