import ChangeApply.Proofs.Audit
import ChangeApply.Proofs.Serving
import ChangeApply.DryRun

set_option autoImplicit false

namespace ChangeApply

inductive Load where
  | single (statement : Statement)
  | atomic (statements : List Statement)
  | planned (plan : Plan)
  | changed (change : RowChange) (table : Table)
  | dispatched (ddl : DdlStatement)
  | scripted (statement schema : String) (kind : DdlKind) (token : String)

namespace Load

def step (task : String) : Load → DryRun.Step
  | .single statement => .single task statement
  | .atomic statements => .atomic task statements
  | .planned plan => .deliver task plan
  | .changed change table => .deliverChange task change table
  | .dispatched ddl => .sendDdl task ddl
  | .scripted statement schema kind token => .deliverDdl task statement schema kind token

def plan? (policy : Policy) : Load → Option (Except ChangeFault Plan)
  | .planned plan => some (.ok plan)
  | .changed change table => some (Plan.ofChange change table policy)
  | _ => none

def idle (policy : Policy) (load : Load) : Bool :=
  match load.plan? policy with
  | some (.ok plan) => plan.isEmpty
  | _ => false

def unfit (policy : Policy) (load : Load) : Bool :=
  match load.plan? policy with
  | some (.error _) => true
  | _ => false

end Load

inductive Act where
  | configure (settings : Settings)
  | setFaults (faults : Faults)
  | obstruct (kind : Request.Kind) (fault : Option Failure)
  | setJobs (rows : List ResultRow)
  | ship (task : String) (load : Load)
  | poll (token : String)

def Act.take (run : DryRun) : Act → DryRun.Result × List Report × DryRun
  | .configure settings => (.nothing, [], { run with settings := settings })
  | .setFaults faults => (.nothing, [], run.withStore fun store => store.under faults)
  | .obstruct kind fault => run.step (.fault kind fault)
  | .setJobs rows => run.step (.setJobs rows)
  | .ship task load => run.step (load.step task)
  | .poll token => run.step (.poll token)

namespace Report

def tally (counter : Counter) (reports : List Report) : Nat := (reports.filterMap counter?).count counter

def complaints (reports : List Report) : List (String × String) := reports.filterMap complaint?

def failures (reports : List Report) : List (String × String) := reports.filterMap failure?

theorem indecisive (report : Report) (decided : report.decisive = false) :
    report.counter? = none ∧ report.failure? = none ∧ report.complaint? = none := by
  simpa [decisive, and_assoc] using decided

end Report

open Report (tally complaints failures)

structure Accounted (task : Option String) (result : DryRun.Result) (idle unfit : Bool) (reports : List Report) : Prop where
  granted : (if result = .truth true then 1 else 0) =
    tally (.statements true) reports + tally (.transactions true) reports + if idle then 1 else 0
  refused : (if result = .truth false then 1 else 0) =
    tally (.statements false) reports + tally (.transactions false) reports + if unfit then 1 else 0
  complained : (complaints reports).length = if result = .truth false then 1 else 0
  recorded : failures reports = complaints reports
  once : (reports.filterMap Report.counter?).length ≤ 1
  owned : ∀ entry ∈ complaints reports, task = some entry.1
  worded : ∀ entry ∈ complaints reports, ∃ error : DeliveryError, entry.2 = error.message

namespace Accounted

variable {task : Option String} {result : DryRun.Result} {idle unfit : Bool} {reports : List Report}

theorem of_decisive (accounted : Accounted task result idle unfit (reports.filter Report.decisive)) :
    Accounted task result idle unfit reports := by
  have counters := Report.filter_map_decisive Report.counter? reports fun report decided => (report.indecisive decided).1
  have failed := Report.filter_map_decisive Report.failure? reports fun report decided => (report.indecisive decided).2.1
  have complained := Report.filter_map_decisive Report.complaint? reports fun report decided =>
    (report.indecisive decided).2.2
  obtain ⟨granted, refused, one, recorded, once, owned, worded⟩ := accounted
  simp only [tally, complaints, failures, counters, failed, complained] at granted refused one recorded once owned worded
  exact ⟨granted, refused, one, recorded, once, owned, worded⟩

theorem quiet (neither : ∀ granted, result ≠ .truth granted) : Accounted task result false false [] := by
  refine ⟨?_, ?_, ?_, rfl, Nat.zero_le _, List.forall_mem_nil _, List.forall_mem_nil _⟩
  · rw [if_neg (neither true)]
    rfl
  · rw [if_neg (neither false)]
    rfl
  · rw [if_neg (neither false)]
    rfl

theorem idle_call : Accounted task (.truth true) true false [] :=
  ⟨rfl, rfl, rfl, rfl, Nat.zero_le _, List.forall_mem_nil _, List.forall_mem_nil _⟩

theorem unfit_call (name table : String) (fault : ChangeFault) :
    Accounted (some name) (.truth false) false true (Delivery.complaint name table (.change fault)) :=
  ⟨rfl, rfl, rfl, rfl, Nat.zero_le _, List.forall_mem_singleton.mpr rfl,
    List.forall_mem_singleton.mpr ⟨.change fault, rfl⟩⟩

theorem closed_call (name : String) (granted : Bool) (closes : Delivery.Closes name granted reports) :
    Accounted (some name) (.truth granted) false false reports := by
  obtain ⟨table, counter, outcome, either, rfl, rfl⟩ := closes
  cases outcome with
  | ok done =>
    rcases either with rfl | rfl <;>
      exact ⟨rfl, rfl, rfl, rfl, Nat.le_refl _, List.forall_mem_nil _, List.forall_mem_nil _⟩
  | error error =>
    rcases either with rfl | rfl <;>
      exact ⟨rfl, rfl, rfl, rfl, Nat.le_refl _, List.forall_mem_singleton.mpr rfl,
        List.forall_mem_singleton.mpr ⟨error, rfl⟩⟩

end Accounted

namespace Load

def Settles (policy : Policy) (task : String) (load : Load) (granted : Bool) (reports : List Report) : Prop :=
  match load.plan? policy with
  | some plan => Delivery.Settles task plan granted reports
  | none => Delivery.Closes task granted reports

def Sends (policy : Policy) (load : Load) : Prop :=
  match load.plan? policy with
  | some plan => Delivery.Sends plan
  | none => True

theorem accounted_of_settles (policy : Policy) (task : String) (load : Load) (granted : Bool) (reports : List Report)
    (settles : load.Settles policy task granted reports) :
    Accounted (some task) (.truth granted) (load.idle policy) (load.unfit policy) reports := by
  rw [Settles] at settles
  rw [idle, unfit]
  cases planned : load.plan? policy with
  | none =>
    rw [planned] at settles
    exact Accounted.closed_call task granted settles
  | some plan =>
    rw [planned] at settles
    cases settles with
    | idle plan empty =>
      simp only [empty]
      exact Accounted.idle_call
    | unfit table fault => exact Accounted.unfit_call task table fault
    | sent plan granted reports some_statements closes =>
      simp only [some_statements]
      exact Accounted.closed_call task granted closes

theorem accounted_of_stalled (policy : Policy) (task : String) (load : Load) (sends : load.Sends policy) :
    Accounted (some task) .stalled (load.idle policy) (load.unfit policy) [] := by
  rw [Sends] at sends
  rw [idle, unfit]
  cases planned : load.plan? policy with
  | none => exact Accounted.quiet nofun
  | some plan =>
    rw [planned] at sends
    obtain ⟨fit, rfl, some_statements⟩ := sends
    simp only [some_statements]
    exact Accounted.quiet nofun

end Load

namespace DryRun

theorem call_audited {α : Type} (run : DryRun) (dialogue : Dialogue α) (result : α → Result) (busy : Prop)
    (post : α → List Report → Prop) (ensured : dialogue.Ensures (audit busy) post []) :
    let called := run.call dialogue result
    (∃ value, called.1 = result value ∧ post value (called.2.1.filter Report.decisive)) ∨
      called.1 = .stalled ∧ called.2.1.filter Report.decisive = [] ∧ busy := by
  intro called
  rcases Dialogue.run_from_audited busy post dialogue none run.destination [] ensured with
    ⟨value, ended, settled⟩ | ⟨unended, silent, working⟩
  · rw [← Dialogue.run] at ended settled
    refine .inl ⟨value, ?_, ?_⟩
    · simp only [called, call, ended]
    · simpa only [called, call, ended, List.nil_append] using settled
  · rw [← Dialogue.run] at unended silent
    refine .inr ⟨?_, ?_, working⟩
    · simp only [called, call, unended]
    · simpa only [called, call, unended, List.nil_append] using silent

theorem accounted_call (run : DryRun) (policy : Policy) (task : String) (load : Load) (dialogue : Dialogue Bool)
    (ensured : dialogue.Ensures (audit (load.Sends policy)) (load.Settles policy task) []) :
    let called := run.call dialogue .truth
    Accounted (some task) called.1 (load.idle policy) (load.unfit policy) called.2.1 := by
  intro called
  refine Accounted.of_decisive ?_
  rcases run.call_audited dialogue .truth _ _ ensured with ⟨granted, ended, settles⟩ | ⟨ended, silent, sends⟩
  · rw [ended]
    exact load.accounted_of_settles policy task granted _ settles
  · rw [ended, silent]
    exact load.accounted_of_stalled policy task sends

theorem accounted_ship (run : DryRun) (task : String) (load : Load) :
    let called := run.step (load.step task)
    Accounted (some task) called.1 (load.idle run.settings.policy) (load.unfit run.settings.policy) called.2.1 := by
  have audited := run.accounted_call run.settings.policy task load
  cases load with
  | single statement => exact audited _ (Delivery.single_audited task statement trivial)
  | atomic statements => exact audited _ (Delivery.atomic_audited task statements trivial)
  | planned plan => exact audited _ (Delivery.deliver_audited task plan)
  | changed change table =>
    exact audited _ (Delivery.deliver_change_audited run.settings.policy task change table _ rfl)
  | dispatched ddl => exact audited _ (Delivery.send_ddl_audited task ddl trivial)
  | scripted statement schema kind token => exact audited _ (Delivery.send_ddl_audited task _ trivial)

theorem accounted_poll (run : DryRun) (token : String) :
    let called := run.step (.poll token)
    Accounted none called.1 false false called.2.1 := by
  intro called
  refine Accounted.of_decisive ?_
  rcases run.call_audited _ ofState _ _ (JobWatch.poll_audited run.settings.jobListing token) with
    ⟨found, ended, silent⟩ | ⟨ended, silent, -⟩
  · rw [show called.2.1.filter Report.decisive = [] from silent]
    refine Accounted.quiet fun granted returned => ?_
    cases found with
    | ok outcome => cases ended.symm.trans returned
    | error error => cases ended.symm.trans returned
  · rw [show called.2.1.filter Report.decisive = [] from silent]
    refine Accounted.quiet fun granted returned => ?_
    cases ended.symm.trans returned

theorem note_errors_eq (reports : List Report) (errors : List (String × String)) :
    noteErrors reports errors = (failures reports).reverse ++ errors := by
  induction reports generalizing errors with
  | nil => rfl
  | cons report rest ih =>
    rw [noteErrors, List.foldl_cons, ← noteErrors, ih]
    cases failed : report.failure? <;> simp [failures, failed]

theorem last_errors_call {α : Type} (run : DryRun) (dialogue : Dialogue α) (result : α → Result) :
    let called := run.call dialogue result
    called.2.2.lastErrors = (failures called.2.1).reverse ++ run.lastErrors := by
  intro called
  rw [← note_errors_eq]
  simp only [called, call]
  cases (dialogue.run run.destination).result <;> rfl

end DryRun

structure Taken where
  act : Act
  before : DryRun

namespace Taken

def result (taken : Taken) : DryRun.Result := (taken.act.take taken.before).1

def reports (taken : Taken) : List Report := (taken.act.take taken.before).2.1

def after (taken : Taken) : DryRun := (taken.act.take taken.before).2.2

def task? (taken : Taken) : Option String :=
  match taken.act with
  | .ship task _ => some task
  | _ => none

def returned (granted : Bool) (taken : Taken) : Bool := taken.result = .truth granted

def idle (taken : Taken) : Bool :=
  match taken.act with
  | .ship _ load => load.idle taken.before.settings.policy
  | _ => false

def unfit (taken : Taken) : Bool :=
  match taken.act with
  | .ship _ load => load.unfit taken.before.settings.policy
  | _ => false

def message? (taken : Taken) : Option String := (complaints taken.reports).head?.map Prod.snd

def inTurn : List Act → DryRun → List Taken
  | [], _ => []
  | act :: rest, run => ⟨act, run⟩ :: inTurn rest (after ⟨act, run⟩)

def last (acts : List Act) (run : DryRun) : DryRun := acts.foldl (fun run act => after ⟨act, run⟩) run

theorem accounted (taken : Taken) : Accounted taken.task? taken.result taken.idle taken.unfit taken.reports := by
  obtain ⟨act, before⟩ := taken
  cases act with
  | configure settings => exact Accounted.quiet nofun
  | setFaults faults => exact Accounted.quiet nofun
  | obstruct kind fault => exact Accounted.quiet nofun
  | setJobs rows => exact Accounted.quiet nofun
  | ship task load => exact before.accounted_ship task load
  | poll token => exact before.accounted_poll token

theorem last_errors_after (taken : Taken) :
    taken.after.lastErrors = (failures taken.reports).reverse ++ taken.before.lastErrors := by
  obtain ⟨act, before⟩ := taken
  cases act with
  | configure settings => rfl
  | setFaults faults => rfl
  | obstruct kind fault => rfl
  | setJobs rows => rfl
  | poll token => exact before.last_errors_call _ _
  | ship task load => cases load <;> exact before.last_errors_call _ _

def failedFor (task : String) (taken : Taken) : Bool := taken.returned false && taken.task? = some task

theorem last_error_after (taken : Taken) (task : String) :
    taken.after.lastError? task = if taken.failedFor task then taken.message? else taken.before.lastError? task := by
  obtain ⟨-, -, complained, recorded, -, owned, -⟩ := taken.accounted
  rw [DryRun.lastError?, last_errors_after, recorded, message?, failedFor, returned]
  by_cases failed : taken.result = .truth false
  · rw [if_pos failed] at complained
    obtain ⟨⟨owner, message⟩, one⟩ := List.length_eq_one_iff.mp complained
    have mine : taken.task? = some owner := owned (owner, message) (by simp [one])
    by_cases same : task = owner
    · simp [one, failed, mine, same]
    · have apart : (task == owner) = false := beq_false_of_ne same
      simp [one, failed, mine, Ne.symm same, apart, List.lookup_cons, DryRun.lastError?]
  · rw [if_neg failed] at complained
    rw [List.eq_nil_of_length_eq_zero complained]
    simp [failed, DryRun.lastError?]

theorem last_error_last (acts : List Act) (run : DryRun) (task : String) :
    (last acts run).lastError? task =
      (((inTurn acts run).filter (failedFor task)).getLast?).elim (run.lastError? task) message? := by
  induction acts generalizing run with
  | nil => rfl
  | cons act rest ih =>
    rw [last, List.foldl_cons, ← last, ih, last_error_after, inTurn]
    cases failed : failedFor task ⟨act, run⟩ with
    | false => simp [failed]
    | true =>
      rw [List.filter_cons_of_pos failed, List.getLast?_cons]
      cases ((inTurn rest (after ⟨act, run⟩)).filter (failedFor task)).getLast? <;> simp

theorem message_of_refused (taken : Taken) (refused : taken.returned false = true) :
    ∃ error : DeliveryError, taken.message? = some error.message := by
  obtain ⟨-, -, complained, -, -, -, worded⟩ := taken.accounted
  rw [if_pos (of_decide_eq_true refused)] at complained
  obtain ⟨entry, one⟩ := List.length_eq_one_iff.mp complained
  obtain ⟨error, message⟩ := worded entry (by simp [one])
  exact ⟨error, by simp [message?, one, message]⟩

end Taken

structure AddsUp (taken : List Taken) : Prop where
  granted : taken.countP (Taken.returned true) =
    tally (.statements true) (taken.flatMap Taken.reports) + tally (.transactions true) (taken.flatMap Taken.reports) +
      taken.countP Taken.idle
  refused : taken.countP (Taken.returned false) =
    tally (.statements false) (taken.flatMap Taken.reports) + tally (.transactions false) (taken.flatMap Taken.reports) +
      taken.countP Taken.unfit
  complained : taken.countP (Taken.returned false) = (complaints (taken.flatMap Taken.reports)).length
  recorded : failures (taken.flatMap Taken.reports) = complaints (taken.flatMap Taken.reports)

theorem adds_up (taken : List Taken) : AddsUp taken := by
  induction taken with
  | nil => exact ⟨rfl, rfl, rfl, rfl⟩
  | cons first rest ih =>
    obtain ⟨granted, refused, complained, recorded, -, -, -⟩ := first.accounted
    have returned (truth : Bool) : (if first.returned truth = true then 1 else 0) =
        if first.result = .truth truth then 1 else 0 := by
      simp [Taken.returned]
    refine ⟨?_, ?_, ?_, ?_⟩
    · simp only [List.countP_cons, returned, granted, ih.granted, List.flatMap_cons, tally, List.filterMap_append,
        List.count_append]
      omega
    · simp only [List.countP_cons, returned, refused, ih.refused, List.flatMap_cons, tally, List.filterMap_append,
        List.count_append]
      omega
    · simp only [List.countP_cons, returned, ← complained, ih.complained, List.flatMap_cons, complaints,
        List.filterMap_append, List.length_append]
      omega
    · simp only [List.flatMap_cons, failures, complaints, List.filterMap_append] at recorded ⊢
      rw [recorded]
      exact congrArg (_ ++ ·) ih.recorded

theorem calls_are_accounted_once (settings : Settings) (acts : List Act) :
    let taken := Taken.inTurn acts (.start settings)
    let reports := taken.flatMap Taken.reports
    taken.countP (Taken.returned true) =
        tally (.statements true) reports + tally (.transactions true) reports + taken.countP Taken.idle ∧
      taken.countP (Taken.returned false) =
        tally (.statements false) reports + tally (.transactions false) reports + taken.countP Taken.unfit ∧
      taken.countP (Taken.returned false) = (complaints reports).length ∧
      taken.countP (Taken.returned false) = (failures reports).length ∧
      (∀ one ∈ taken, (one.reports.filterMap Report.counter?).length ≤ 1 ∧
        (one.returned false = true → ∃ error : DeliveryError, one.message? = some error.message)) ∧
      ∀ task : String, (Taken.last acts (.start settings)).lastError? task =
        (taken.filter fun one => one.returned false && one.task? = some task).getLast?.bind Taken.message? := by
  intro taken reports
  obtain ⟨granted, refused, complained, recorded⟩ := adds_up taken
  refine ⟨granted, refused, complained, ?_, fun one _ => ⟨one.accounted.once, one.message_of_refused⟩, fun task => ?_⟩
  · rw [recorded]
    exact complained
  · change _ = (taken.filter (Taken.failedFor task)).getLast?.bind Taken.message?
    rw [Taken.last_error_last]
    cases (taken.filter (Taken.failedFor task)).getLast? <;> rfl

end ChangeApply
