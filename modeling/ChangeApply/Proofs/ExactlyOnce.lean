import ChangeApply.Proofs.Rehearsal

set_option autoImplicit false

namespace ChangeApply

namespace Store

theorem committed_visited (store : Store) (transaction : Bool) (statements : List Sent) :
    (store.visited transaction statements).committed =
      store.committed ++ if store.grants transaction statements then statements else [] := by
  cases refuses : store.refusesAcquire with
  | true => simp [visited, grants, refuses]
  | false =>
    cases granted : store.grants transaction statements with
    | true => simp [visited, refuses, granted, lend, append, takeBack]
    | false => cases transaction <;> simp [visited, refuses, granted, lend, takeBack, countRollback]

end Store

namespace Plan

def sends (plan : Plan) : List Sent := plan.toList.map Statement.sent

def isTransaction (plan : Plan) : Bool := 2 ≤ plan.toList.length

def grantedBy (plan : Plan) (store : Store) : Bool :=
  plan.toList.isEmpty || store.grants plan.isTransaction plan.sends

def leaves (plan : Plan) (store : Store) : Store :=
  if plan.toList.isEmpty then store else store.visited plan.isTransaction plan.sends

theorem sends_eq_nil_iff (plan : Plan) : plan.sends = [] ↔ plan.toList.isEmpty = true := by
  simp [sends]

theorem committed_leaves (plan : Plan) (store : Store) :
    (plan.leaves store).committed = store.committed ++ if plan.grantedBy store then plan.sends else [] := by
  cases empty : plan.toList.isEmpty with
  | true => simp [leaves, grantedBy, empty, (sends_eq_nil_iff plan).mpr empty]
  | false => simp [leaves, grantedBy, empty, Store.committed_visited]

end Plan

namespace Delivery

open Destination (plain)

theorem deliver_rehearsed (task : String) (plan : Plan) (store : Store)
    (flowing : ∀ sent ∈ plan.sends, store.stalls sent = false) :
    (deliver task plan).Ensures rehearsal (Leaves (plan.grantedBy store) (plan.leaves store)) ⟨none, plain store⟩ := by
  cases plan with
  | merged statement => exact single_rehearsed task statement.toStatement store (flowing _ (by simp [Plan.sends, Plan.toList]))
  | statements list =>
    match list with
    | [] => exact ⟨rfl, rfl⟩
    | [statement] => exact single_rehearsed task statement store (flowing _ (by simp [Plan.sends, Plan.toList]))
    | first :: second :: rest =>
      exact atomic_rehearsed task (first :: second :: rest) store fun statement member =>
        flowing statement.sent (List.mem_map_of_mem member)

theorem deliver_change_rehearsed (policy : Policy) (task : String) (change : RowChange) (table : Table) (store : Store)
    (post : Bool → Standing → Prop)
    (planned : ∀ plan, Plan.ofChange change table policy = .ok plan →
      (deliver task plan).Ensures rehearsal post ⟨none, plain store⟩)
    (unfit : ∀ fault, Plan.ofChange change table policy = .error fault → post false ⟨none, plain store⟩) :
    (deliverChange policy task change table).Ensures rehearsal post ⟨none, plain store⟩ := by
  rw [deliverChange, Dialogue.ensures_bind, log_all_ensures, rehearsal_notes]
  cases outcome : Plan.ofChange change table policy with
  | ok plan => exact planned plan outcome
  | error fault => exact unfit fault outcome

end Delivery

theorem run_of_leaves (dialogue : Dialogue Bool) (store after : Store) (granted : Bool)
    (ensured : dialogue.Ensures rehearsal (Leaves granted after) ⟨none, .plain store⟩) :
    (dialogue.run (.plain store)).result = some granted ∧ (dialogue.run (.plain store)).destination = .plain after := by
  obtain ⟨result, standing, ⟨rfl, left⟩, ended, destination⟩ :=
    Dialogue.run_from_of_ensures _ dialogue none (.plain store) ensured
  exact ⟨ended, destination.trans left⟩

structure ChangeCall where
  faults : Faults
  policy : Policy
  task : String
  change : RowChange
  table : Table

namespace ChangeCall

def plan (call : ChangeCall) : Except ChangeFault Plan := Plan.ofChange call.change call.table call.policy

def planned (call : ChangeCall) : List Sent :=
  match call.plan with
  | .ok plan => plan.sends
  | .error _ => []

def run (call : ChangeCall) (store : Store) : Run Bool :=
  (Delivery.deliverChange call.policy call.task call.change call.table).run (.plain (store.under call.faults))

def Flows (call : ChangeCall) : Prop :=
  ∀ sent ∈ call.planned, ∀ pattern ∈ call.faults.stallingPatterns, Text.contains sent.sql pattern = false

def Succeeds (call : ChangeCall) : Prop :=
  ∃ plan, call.plan = .ok plan ∧
    (plan.sends = [] ∨
      call.faults.refusesAcquire = false ∧
        (∀ sent ∈ plan.sends, ∀ pattern ∈ call.faults.failingPatterns, Text.contains sent.sql pattern = false) ∧
        (2 ≤ plan.sends.length → call.faults.refusesCommit = false))

theorem flowing_planned (call : ChangeCall) (store : Store) (plan : Plan) (fit : call.plan = .ok plan)
    (flows : call.Flows) : ∀ sent ∈ plan.sends, (store.under call.faults).stalls sent = false := by
  intro sent member
  rw [Store.not_stalls_iff]
  refine flows sent ?_
  rwa [planned, fit]

theorem run_fit (call : ChangeCall) (store : Store) (plan : Plan) (fit : call.plan = .ok plan) (flows : call.Flows) :
    (call.run store).result = some (plan.grantedBy (store.under call.faults)) ∧
      (call.run store).destination = .plain (plan.leaves (store.under call.faults)) := by
  refine run_of_leaves _ _ _ _ (Delivery.deliver_change_rehearsed _ _ _ _ _ _ ?_ ?_)
  · intro other same
    cases fit.symm.trans same
    exact Delivery.deliver_rehearsed call.task plan _ (call.flowing_planned store plan fit flows)
  · intro fault same
    cases fit.symm.trans same

theorem run_unfit (call : ChangeCall) (store : Store) (fault : ChangeFault) (unfit : call.plan = .error fault) :
    (call.run store).result = some false ∧ (call.run store).destination = .plain (store.under call.faults) := by
  refine run_of_leaves _ _ _ _ (Delivery.deliver_change_rehearsed _ _ _ _ _ _ ?_ ?_)
  · intro plan same
    cases unfit.symm.trans same
  · exact fun _ _ => ⟨rfl, rfl⟩

end ChangeCall

structure MadeCall where
  call : ChangeCall
  before : Store

namespace MadeCall

def result (made : MadeCall) : Option Bool := (made.call.run made.before).result

def after (made : MadeCall) : Store := (made.call.run made.before).destination.store

def contribution (made : MadeCall) : List Sent := if made.result = some true then made.call.planned else []

def inTurn : List ChangeCall → Store → List MadeCall
  | [], _ => []
  | call :: rest, store => ⟨call, store⟩ :: inTurn rest (after ⟨call, store⟩)

def last (calls : List ChangeCall) (store : Store) : Store :=
  calls.foldl (fun store call => after ⟨call, store⟩) store

theorem committed_after (made : MadeCall) (flows : made.call.Flows) :
    made.after.committed = made.before.committed ++ made.contribution := by
  cases outcome : made.call.plan with
  | ok plan =>
    obtain ⟨ended, left⟩ := made.call.run_fit made.before plan outcome flows
    rw [after, left, contribution, result, ended, ChangeCall.planned, outcome]
    refine (plan.committed_leaves _).trans ?_
    cases plan.grantedBy (made.before.under made.call.faults) <;> rfl
  | error fault =>
    obtain ⟨ended, left⟩ := made.call.run_unfit made.before fault outcome
    rw [after, left, contribution, result, ended, if_neg (by simp), List.append_nil]
    rfl

theorem call_mem_of_in_turn (calls : List ChangeCall) (store : Store) (made : MadeCall) (member : made ∈ inTurn calls store) :
    made.call ∈ calls := by
  induction calls generalizing store with
  | nil => cases member
  | cons call rest ih =>
    rcases List.mem_cons.mp member with rfl | later
    · exact List.mem_cons_self
    · exact List.mem_cons_of_mem call (ih _ later)

theorem committed_last (calls : List ChangeCall) (store : Store) (flows : ∀ call ∈ calls, call.Flows) :
    (last calls store).committed = store.committed ++ (inTurn calls store).flatMap contribution := by
  induction calls generalizing store with
  | nil => simp [last, inTurn]
  | cons call rest ih =>
    have first := committed_after ⟨call, store⟩ (flows call (by simp))
    have later := ih (after ⟨call, store⟩) fun other member => flows other (by simp [member])
    rw [last, List.foldl_cons, ← last, later, first, inTurn, List.flatMap_cons, List.append_assoc]

end MadeCall

end ChangeApply
