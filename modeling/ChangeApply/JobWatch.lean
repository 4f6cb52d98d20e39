import ChangeApply.Delivery

set_option autoImplicit false

namespace ChangeApply.JobWatch

open Dialogue (request log)

def listing (query : String) : Dialogue (Except Failure (List ResultRow)) := do
  match ← request .acquire with
  | .error failure => return .error failure
  | .ok _ =>
    let rows ← request (.query query)
    Delivery.giveBack .ddlTracker
    return rows

def poll (query token : String) : Dialogue (Except DeliveryError JobOutcome) := do
  match ← listing query with
  | .error failure =>
    log (.stateQueryFailed token failure.text)
    return .error (.listing token failure)
  | .ok rows =>
    let jobs := rows.map Job.ofRow
    let outcome := Job.verdict jobs token
    log (.stateResolved token jobs.length outcome)
    return .ok outcome

end ChangeApply.JobWatch
