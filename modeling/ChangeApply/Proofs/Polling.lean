import ChangeApply.JobWatch
import ChangeApply.Proofs.Dispatch

set_option autoImplicit false

namespace ChangeApply

namespace ResultRow

def Shows (row : ResultRow) (column text : String) : Prop :=
  ∃ before name after, row.columns = before ++ (name, some text) :: after ∧ Ascii.fold name = Ascii.fold column ∧
    ∀ entry ∈ before, Ascii.fold entry.1 ≠ Ascii.fold column

def Carries (row : ResultRow) (token : String) : Prop :=
  ∃ text, row.Shows "DDL_STMT" text ∧ (DdlStatement.marker token).toList <:+: text.toList

def Waits (row : ResultRow) : Prop := ∃ text, row.Shows "STATE" text ∧ "PENDING".toList <:+: text.toList

variable (row : ResultRow)

theorem get_eq_some_iff (column text : String) : row.get? column = some text ↔ row.Shows column text := by
  constructor
  · intro shown
    obtain ⟨⟨name, value⟩, found, same⟩ := Option.bind_eq_some_iff.mp shown
    obtain ⟨named, before, after, split, others⟩ := List.find?_eq_some_iff_append.mp found
    cases (show value = some text from same)
    refine ⟨before, name, after, split, (Ascii.same_iff _ _).mp named, ?_⟩
    intro entry member alike
    have differs := others entry member
    rw [(Ascii.same_iff _ _).mpr alike] at differs
    cases differs
  · rintro ⟨before, name, after, split, named, others⟩
    have found : (row.columns.find? fun entry => Ascii.same entry.1 column) = some (name, some text) := by
      rw [List.find?_eq_some_iff_append]
      refine ⟨(Ascii.same_iff _ _).mpr named, before, after, split, ?_⟩
      intro entry member
      rw [Bool.not_eq_true', Bool.eq_false_iff]
      intro alike
      exact others entry member ((Ascii.same_iff _ _).mp alike)
    rw [get?, found]
    rfl

theorem any_get_iff (column pattern : String) :
    (row.get? column).any (fun text => Text.contains text pattern) = true ↔
      ∃ text, row.Shows column text ∧ pattern.toList <:+: text.toList := by
  simp only [Option.any_eq_true, get_eq_some_iff, Text.contains_iff]

theorem carries_iff (token : String) : (Job.ofRow row).carries token = true ↔ row.Carries token :=
  row.any_get_iff "DDL_STMT" (DdlStatement.marker token)

theorem waits_iff : (Job.ofRow row).isPending = true ↔ row.Waits := row.any_get_iff "STATE" "PENDING"

end ResultRow

def FirstCarrier (listing : List ResultRow) (token : String) (row : ResultRow) : Prop :=
  ∃ before after, listing = before ++ row :: after ∧ (∀ earlier ∈ before, ¬ earlier.Carries token) ∧ row.Carries token

def Decides (listing : List ResultRow) (token : String) : JobOutcome → Prop
  | .succeeded => ∀ row ∈ listing, ¬ row.Carries token
  | .failed => ∃ row, FirstCarrier listing token row ∧ row.Waits
  | .running => ∃ row, FirstCarrier listing token row ∧ ¬ row.Waits

def verdictOf (listing : List ResultRow) (token : String) : JobOutcome := Job.verdict (listing.map Job.ofRow) token

theorem verdict_of_append (first second : List ResultRow) (token : String) :
    (verdictOf first token = .succeeded → verdictOf (first ++ second) token = verdictOf second token) ∧
      (verdictOf first token ≠ .succeeded → verdictOf (first ++ second) token = verdictOf first token) := by
  simp only [verdictOf, Job.verdict, List.map_append, List.find?_append]
  cases (first.map Job.ofRow).find? (Job.carries token) with
  | none => simp
  | some job => simp [job.outcome_ne_succeeded]

theorem verdict_of_uncarried (listing : List ResultRow) (token : String) (uncarried : ∀ row ∈ listing, ¬ row.Carries token) :
    verdictOf listing token = .succeeded := by
  have missing : (listing.map Job.ofRow).find? (Job.carries token) = none := by
    rw [List.find?_eq_none]
    intro job member
    obtain ⟨row, among, rfl⟩ := List.mem_map.mp member
    exact fun carries => uncarried row among ((row.carries_iff token).mp carries)
  rw [verdictOf, Job.verdict, missing]
  rfl

theorem verdict_of_first_carrier (listing : List ResultRow) (token : String) (row : ResultRow)
    (first : FirstCarrier listing token row) : verdictOf listing token = (Job.ofRow row).outcome := by
  obtain ⟨before, after, rfl, uncarried, carried⟩ := first
  rw [(verdict_of_append before (row :: after) token).1 (verdict_of_uncarried before token uncarried), verdictOf,
    Job.verdict, List.map_cons, List.find?_cons_of_pos ((row.carries_iff token).mpr carried)]
  rfl

theorem outcome_of_waits (row : ResultRow) (waits : row.Waits) : (Job.ofRow row).outcome = .failed :=
  if_pos (row.waits_iff.mpr waits)

theorem outcome_of_works (row : ResultRow) (works : ¬ row.Waits) : (Job.ofRow row).outcome = .running :=
  if_neg fun pending => works (row.waits_iff.mp pending)

theorem exists_first_carrier (listing : List ResultRow) (token : String) :
    (∀ row ∈ listing, ¬ row.Carries token) ∨ ∃ row, FirstCarrier listing token row := by
  induction listing with
  | nil =>
    left
    exact List.forall_mem_nil _
  | cons row rest ih =>
    by_cases carried : row.Carries token
    · right
      exact ⟨row, [], rest, rfl, List.forall_mem_nil _, carried⟩
    · rcases ih with uncarried | ⟨carrier, before, after, split, uncarried, carries⟩
      · left
        exact List.forall_mem_cons.mpr ⟨carried, uncarried⟩
      · right
        exact ⟨carrier, row :: before, after, congrArg (row :: ·) split, List.forall_mem_cons.mpr ⟨carried, uncarried⟩,
          carries⟩

theorem decides_verdict (listing : List ResultRow) (token : String) : Decides listing token (verdictOf listing token) := by
  rcases exists_first_carrier listing token with uncarried | ⟨row, first⟩
  · rw [verdict_of_uncarried listing token uncarried]
    exact uncarried
  · rw [verdict_of_first_carrier listing token row first]
    by_cases waits : row.Waits
    · rw [outcome_of_waits row waits]
      exact ⟨row, first, waits⟩
    · rw [outcome_of_works row waits]
      exact ⟨row, first, waits⟩

theorem decides_iff (listing : List ResultRow) (token : String) (outcome : JobOutcome) :
    Decides listing token outcome ↔ outcome = verdictOf listing token := by
  constructor
  · intro decided
    cases outcome with
    | succeeded => exact (verdict_of_uncarried listing token decided).symm
    | failed =>
      obtain ⟨row, first, waits⟩ := decided
      rw [verdict_of_first_carrier listing token row first, outcome_of_waits row waits]
    | running =>
      obtain ⟨row, first, works⟩ := decided
      rw [verdict_of_first_carrier listing token row first, outcome_of_works row works]
  · rintro rfl
    exact decides_verdict listing token

theorem Destination.plain_query (sql : String) (store : Store) :
    (plain store).serve (some .fresh) (.query sql) =
      ⟨if store.refusesQuery then .error (.because "status query failed") else .ok store.jobs, some .fresh, plain store⟩ := by
  have queried : Connection.fresh.query store =
      if store.refusesQuery then ⟨.error (.because "status query failed"), .fresh, store⟩
      else ⟨.ok store.jobs, .fresh, store⟩ := rfl
  refine (congrArg (@turn (.query sql) (plain store)) queried).trans ?_
  cases store.refusesQuery <;> rfl

namespace Store

def told (store : Store) (token : String) : Except DeliveryError JobOutcome :=
  if store.refusesAcquire then .error (.listing token (.because "connection refused"))
  else if store.refusesQuery then .error (.listing token (.because "status query failed"))
  else .ok (verdictOf store.jobs token)

def consulted (store : Store) : Store := if store.refusesAcquire then store else store.lend.takeBack

def listed (store : Store) (listing : List ResultRow) : Store := { store with jobs := listing }

end Store

namespace JobWatch

open Destination (plain plain_acquire plain_query plain_release)

theorem listing_rehearsed (query : String) (store : Store) (post : Except Failure (List ResultRow) → Standing → Prop)
    (turned : store.refusesAcquire = true → post (.error (.because "connection refused")) ⟨none, plain store⟩)
    (answered : store.refusesAcquire = false →
      post (if store.refusesQuery then .error (.because "status query failed") else .ok store.jobs)
        ⟨some .givenBack, plain store.lend.takeBack⟩) :
    (listing query).Ensures rehearsal post ⟨none, plain store⟩ := by
  rw [listing, Dialogue.ensures_request_bind]
  have served := plain_acquire store
  by_cases refuses : store.refusesAcquire = true
  · rw [if_pos refuses] at served
    exact rehearsal_refused _ _ _ _ rfl served (turned refuses)
  · rw [if_neg refuses] at served
    apply rehearsal_granted _ _ _ _ rfl served
    apply (Dialogue.ensures_bind rehearsal post (Dialogue.request (.query query)) _ _).mpr
    constructor
    · rfl
    · rintro rows after ⟨replied, rfl⟩
      have found := plain_query query store.lend
      rw [found] at replied ⊢
      subst replied
      apply (Dialogue.ensures_bind rehearsal post (Delivery.giveBack .ddlTracker) _ _).mpr
      rw [Delivery.give_back_ensures]
      apply rehearsal_granted _ _ _ _ rfl (plain_release .fresh store.lend rfl)
      exact answered (Bool.eq_false_iff.mpr refuses)

theorem poll_rehearsed (query token : String) (store : Store) :
    (poll query token).Ensures rehearsal
      (fun result after => result = store.told token ∧ after.destination.drop after.held = plain store.consulted)
      ⟨none, plain store⟩ := by
  rw [poll, Dialogue.ensures_bind]
  apply listing_rehearsed
  · intro refuses
    rw [Store.told, if_pos refuses, Store.consulted, if_pos refuses]
    exact ⟨rfl, rfl⟩
  · intro opens
    have acquired : ¬ store.refusesAcquire = true := Bool.eq_false_iff.mp opens
    rw [Store.told, if_neg acquired, Store.consulted, if_neg acquired]
    by_cases refuses : store.refusesQuery = true
    · rw [if_pos refuses, if_pos refuses]
      exact ⟨rfl, rfl⟩
    · rw [if_neg refuses, if_neg refuses]
      exact ⟨rfl, rfl⟩

def polled (query token : String) (store : Store) : Run (Except DeliveryError JobOutcome) :=
  (poll query token).run (plain store)

theorem polled_as_told (query token : String) (store : Store) :
    (polled query token store).result = some (store.told token) ∧
      (polled query token store).destination = plain store.consulted := by
  obtain ⟨result, after, ⟨rfl, left⟩, ended, destination⟩ :=
    Dialogue.run_from_of_ensures _ (poll query token) none (plain store) (poll_rehearsed query token store)
  exact ⟨ended, destination.trans left⟩

theorem polled_result (query token : String) (store : Store) : (polled query token store).result = some (store.told token) :=
  (polled_as_told query token store).1

end JobWatch

theorem told_of_append (store : Store) (first second : List ResultRow) (token : String) :
    ((store.listed first).told token = .ok .succeeded →
        (store.listed (first ++ second)).told token = (store.listed second).told token) ∧
      ((store.listed first).told token ≠ .ok .succeeded →
        (store.listed (first ++ second)).told token = (store.listed first).told token) := by
  have joined := verdict_of_append first second token
  simp only [Store.told, Store.listed]
  by_cases refuses : store.refusesAcquire = true
  · simp [refuses]
  · by_cases unanswered : store.refusesQuery = true
    · simp [refuses, unanswered]
    · simpa [refuses, unanswered] using joined

namespace DdlCall

theorem sends_end (call : DdlCall) : ∃ earlier, call.sends = earlier ++ [⟨call.text, []⟩] := by
  rw [sends, texts]
  by_cases inside : call.InSchema
  · rw [if_pos inside]
    exact ⟨[⟨call.use, []⟩], rfl⟩
  · rw [if_neg inside]
    exact ⟨[], rfl⟩

theorem marked_text (call : DdlCall) (inside : call.kind.isDatabaseLevel = false) :
    (DdlStatement.marker call.token).toList <:+: call.text.toList := by
  have closing : call.token.toList ++ [')'] <+: call.token.toList ++ ")*/".toList ++ call.statement.toList :=
    ⟨"*/".toList ++ call.statement.toList, by simp⟩
  rw [text, if_neg (Bool.eq_false_iff.mp inside), String.toList_append, DdlStatement.hint_to_list,
    DdlStatement.marker_to_list, List.append_assoc, List.cons_append, DdlStatement.marker_in_hint]
  exact .inl closing

end DdlCall

namespace JobWatch

theorem balanced_polled (query token : String) (store : Store) :
    ∃ after lent, (polled query token store).destination = .plain after ∧ after.committed = store.committed ∧
      after.rollbacks = store.rollbacks ∧ after.dropped = store.dropped ∧
      after.acquired = store.acquired + lent ∧ after.released = store.released + lent := by
  have left := (polled_as_told query token store).2
  rw [Store.consulted] at left
  by_cases refuses : store.refusesAcquire = true
  · rw [if_pos refuses] at left
    exact ⟨store, 0, left, rfl, rfl, rfl, rfl, rfl⟩
  · rw [if_neg refuses] at left
    exact ⟨store.lend.takeBack, 1, left, rfl, rfl, rfl, rfl, rfl⟩

theorem polled_unknown_iff (query token : String) (store : Store) :
    (∃ cause, (polled query token store).result = some (.error (.listing token cause))) ↔
      store.refusesAcquire = true ∨ store.refusesQuery = true := by
  rw [polled_result, Store.told]
  by_cases refuses : store.refusesAcquire = true
  · simp [refuses]
  · by_cases unanswered : store.refusesQuery = true
    · simp [refuses, unanswered]
    · simp [refuses, unanswered]

theorem polled_known (query token : String) (store : Store) (opens : store.refusesAcquire = false)
    (answers : store.refusesQuery = false) :
    (polled query token store).result = some (.ok (verdictOf store.jobs token)) := by
  rw [polled_result, Store.told, opens, answers]
  rfl

theorem carried_not_succeeded (query token : String) (store : Store) (row : ResultRow) (member : row ∈ store.jobs)
    (carried : row.Carries token) : (polled query token store).result ≠ some (.ok .succeeded) := by
  intro succeeded
  have known : ¬ (store.refusesAcquire = true ∨ store.refusesQuery = true) := by
    rw [← polled_unknown_iff query token store, succeeded]
    simp
  rw [not_or, Bool.not_eq_true, Bool.not_eq_true] at known
  rw [polled_known query token store known.1 known.2] at succeeded
  cases finished : verdictOf store.jobs token <;> rw [finished] at succeeded <;> cases succeeded
  exact (decides_iff _ _ _).mpr finished.symm row member carried

end JobWatch

open JobWatch (polled)

theorem polls_follow_the_first_carrier (query token : String) (store : Store) :
    ((∃ cause, (polled query token store).result = some (.error (.listing token cause))) ↔
        store.refusesAcquire = true ∨ store.refusesQuery = true) ∧
      (store.refusesAcquire = false → store.refusesQuery = false →
        ∃ outcome, (polled query token store).result = some (.ok outcome) ∧
          ∀ other, Decides store.jobs token other ↔ other = outcome) ∧
      (∀ first second : List ResultRow,
        ((polled query token (store.listed first)).result = some (.ok .succeeded) →
          (polled query token (store.listed (first ++ second))).result = (polled query token (store.listed second)).result) ∧
        ((polled query token (store.listed first)).result ≠ some (.ok .succeeded) →
          (polled query token (store.listed (first ++ second))).result = (polled query token (store.listed first)).result)) ∧
      (∃ after lent, (polled query token store).destination = .plain after ∧ after.committed = store.committed ∧
        after.rollbacks = store.rollbacks ∧ after.dropped = store.dropped ∧
        after.acquired = store.acquired + lent ∧ after.released = store.released + lent) ∧
      ∀ made : MadeDdl, made.entry.result = .truth true → made.call.kind.isDatabaseLevel = false →
        made.call.token = token →
        (∃ earlier, made.entry.after.destination.store.committed = earlier ++ [⟨made.call.text, []⟩]) ∧
          ∀ row ∈ store.jobs, row.Shows "DDL_STMT" made.call.text →
            (polled query token store).result ≠ some (.ok .succeeded) := by
  refine ⟨JobWatch.polled_unknown_iff query token store, ?_, ?_, JobWatch.balanced_polled query token store, ?_⟩
  · intro opens answers
    exact ⟨_, JobWatch.polled_known query token store opens answers, decides_iff store.jobs token⟩
  · intro first second
    simp only [JobWatch.polled_result, Option.some_inj, ne_eq]
    exact told_of_append store first second token
  · rintro made sent inside rfl
    constructor
    · obtain ⟨earlier, ended⟩ := made.call.sends_end
      use made.before.destination.store.committed ++ earlier
      rw [made.committed_of_true sent, ended, List.append_assoc]
    · intro row member shown
      exact JobWatch.carried_not_succeeded query _ store row member ⟨_, shown, made.call.marked_text inside⟩

def hiddenRow : ResultRow := ⟨[("Ddl_Stmt", none), ("DDL_STMT", some "TSO=42)")]⟩

def waitingRow : ResultRow :=
  ⟨[("state", some "DDL PENDING"), ("ddl_stmt", some "/*+TDDL:cmd_extra(TSO=42)*/ALTER TABLE orders ADD note TEXT")]⟩

theorem waiting_alter_is_polled_behind_a_null :
    (MadeDdl.mk (addingNote []) (.start .initial)).entry.result = .truth true ∧
      waitingRow.Shows "DDL_STMT" (addingNote []).text ∧
      (polled "SHOW FULL DDL" "42" (Store.empty.listed [hiddenRow, waitingRow])).result = some (.ok .failed) ∧
      (polled "SHOW FULL DDL" "42" (Store.empty.listed [waitingRow])).result ≠ some (.ok .succeeded) := by
  have sent : (MadeDdl.mk (addingNote []) (.start .initial)).entry.result = .truth true := by decide
  have shown : waitingRow.Shows "DDL_STMT" (addingNote []).text := (waitingRow.get_eq_some_iff _ _).mp (by decide)
  have hidden : ¬ hiddenRow.Carries "42" := by
    rw [← hiddenRow.carries_iff]
    decide
  have failed : Decides [hiddenRow, waitingRow] "42" .failed :=
    ⟨waitingRow, ⟨[hiddenRow], [], rfl, by simpa using hidden, (waitingRow.carries_iff _).mp (by decide)⟩,
      waitingRow.waits_iff.mp (by decide)⟩
  obtain ⟨outcome, known, decided⟩ := (polls_follow_the_first_carrier "SHOW FULL DDL" "42"
    (Store.empty.listed [hiddenRow, waitingRow])).2.1 rfl rfl
  have followed := (polls_follow_the_first_carrier "SHOW FULL DDL" "42" (Store.empty.listed [waitingRow])).2.2.2.2
    (MadeDdl.mk (addingNote []) (.start .initial)) sent rfl rfl
  cases (decided .failed).mp failed
  exact ⟨sent, shown, known, followed.2 waitingRow (List.mem_singleton_self _) shown⟩

end ChangeApply
