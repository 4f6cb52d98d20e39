import ChangeApply.DryRun
import ChangeApply.Proofs.Rehearsal

set_option autoImplicit false

namespace ChangeApply

namespace Dialogue

variable {α : Type}

def requestsFrom (held : Option Connection) (destination : Destination) : Dialogue α → List Request
  | .done _ => []
  | .report _ next => next.requestsFrom held destination
  | .ask asked next =>
    if destination.stalls held asked then [asked]
    else
      let turn := destination.serve held asked
      asked :: (next turn.reply).requestsFrom turn.held turn.destination

def requests (destination : Destination) (dialogue : Dialogue α) : List Request :=
  dialogue.requestsFrom none destination

end Dialogue

structure Course where
  standing : Standing
  asked : List Request
  lastErrors : List (String × String)

namespace Course

def stalls (course : Course) (asked : Request) : Bool := course.standing.destination.stalls course.standing.held asked

def serve (course : Course) (asked : Request) : Turn asked := course.standing.destination.serve course.standing.held asked

def onto (course : Course) (asked : Request) (held : Option Connection) (destination : Destination) : Course :=
  ⟨⟨held, destination⟩, course.asked ++ [asked], course.lastErrors⟩

end Course

def following (stalling : Prop) : World Course where
  ready course asked := stalling ∨ course.stalls asked = false
  turn course asked reply after :=
    course.stalls asked = false ∧ (course.serve asked).reply = reply ∧
      after = course.onto asked (course.serve asked).held (course.serve asked).destination
  note course report := { course with lastErrors := DryRun.noteErrors [report] course.lastErrors }

namespace Dialogue

variable {α : Type}

structure EndsAs (dialogue : Dialogue α) (course : Course) (result : α) (after : Course) : Prop where
  result : (dialogue.runFrom course.standing.held course.standing.destination).result = some result
  destination : (dialogue.runFrom course.standing.held course.standing.destination).destination =
    after.standing.destination.drop after.standing.held
  asked : after.asked = course.asked ++ dialogue.requestsFrom course.standing.held course.standing.destination
  lastErrors : after.lastErrors = DryRun.noteErrors
    (dialogue.runFrom course.standing.held course.standing.destination).reports course.lastErrors

theorem ends_as_ask (asked : Request) (next : asked.Reply → Dialogue α) (course : Course) (result : α) (after : Course)
    (flowing : course.stalls asked = false)
    (ended : (next (course.serve asked).reply).EndsAs
      (course.onto asked (course.serve asked).held (course.serve asked).destination) result after) :
    (ask asked next).EndsAs course result after := by
  have goes : ¬ course.standing.destination.stalls course.standing.held asked = true := Bool.eq_false_iff.mp flowing
  constructor
  · rw [runFrom, if_neg goes]
    exact ended.result
  · rw [runFrom, if_neg goes]
    exact ended.destination
  · rw [requestsFrom, if_neg goes, ended.asked]
    exact List.append_assoc _ _ _
  · rw [runFrom, if_neg goes]
    exact ended.lastErrors

theorem run_followed (stalling : Prop) (post : α → Course → Prop) (dialogue : Dialogue α) (course : Course)
    (ensured : dialogue.Ensures (following stalling) post course) :
    (stalling ∧ (dialogue.runFrom course.standing.held course.standing.destination).result = none) ∨
      ∃ result after, post result after ∧ dialogue.EndsAs course result after := by
  induction dialogue generalizing course with
  | done result =>
    right
    exact ⟨result, course, ensured, rfl, rfl, (List.append_nil _).symm, rfl⟩
  | report note rest ih =>
    rcases ih _ ensured with stalled | ⟨result, after, owed, ended⟩
    · left
      exact stalled
    · right
      exact ⟨result, after, owed, ended.result, ended.destination, ended.asked, ended.lastErrors⟩
  | ask asked rest ih =>
    obtain ⟨ready, next⟩ := ensured
    by_cases stalls : course.standing.destination.stalls course.standing.held asked = true
    · left
      have allowed : stalling := ready.resolve_right fun flowing => Bool.eq_false_iff.mp flowing stalls
      rw [runFrom, if_pos stalls]
      exact ⟨allowed, rfl⟩
    · have flowing : course.stalls asked = false := Bool.eq_false_iff.mpr stalls
      rcases ih _ _ (next _ _ ⟨flowing, rfl, rfl⟩) with ⟨allowed, stuck⟩ | ⟨result, after, owed, ended⟩
      · left
        rw [runFrom, if_neg stalls]
        exact ⟨allowed, stuck⟩
      · right
        exact ⟨result, after, owed, ends_as_ask asked rest course result after flowing ended⟩

end Dialogue

theorem DryRun.call_ended {α : Type} (run : DryRun) (dialogue : Dialogue α) (shown : α → Result) (result : α) (after : Course)
    (ended : dialogue.EndsAs ⟨⟨none, run.destination⟩, [], run.lastErrors⟩ result after) :
    run.call dialogue shown = (shown result, (dialogue.run run.destination).reports,
      { run with
        destination := after.standing.destination.drop after.standing.held
        lastErrors := after.lastErrors }) := by
  have found : (dialogue.run run.destination).result = some result := ended.result
  have left : (dialogue.run run.destination).destination = after.standing.destination.drop after.standing.held :=
    ended.destination
  have noted : after.lastErrors = noteErrors (dialogue.run run.destination).reports run.lastErrors := ended.lastErrors
  rw [call, found, left, noted]

theorem following_meets (stalling : Prop) (course : Course) {asked : Request} (reply : asked.Reply)
    (held : Option Connection) (destination : Destination)
    (served : course.standing.destination.serve course.standing.held asked = ⟨reply, held, destination⟩) :
    (following stalling).Meets course asked reply (course.onto asked held destination) := by
  have same : course.serve asked = ⟨reply, held, destination⟩ := served
  rintro other later ⟨-, replied, rfl⟩
  rw [same] at replied ⊢
  exact ⟨replied.symm, rfl⟩

section

variable {stalling : Prop} {asked : Request} {granted : asked.Answer → Course → Prop} {refused : Failure → Course → Prop}

theorem course_granted (course : Course) (answer : asked.Answer) (held : Option Connection) (destination : Destination)
    (ready : (following stalling).ready course asked)
    (served : course.standing.destination.serve course.standing.held asked = ⟨.ok answer, held, destination⟩)
    (goal : granted answer (course.onto asked held destination)) :
    (following stalling).ready course asked ∧
      (∀ answer after, (following stalling).turn course asked (.ok answer) after → granted answer after) ∧
      ∀ failure after, (following stalling).turn course asked (.error failure) after → refused failure after :=
  World.only_granted answer ready (following_meets stalling course _ held destination served) goal

theorem course_refused (course : Course) (failure : Failure) (held : Option Connection) (destination : Destination)
    (ready : (following stalling).ready course asked)
    (served : course.standing.destination.serve course.standing.held asked = ⟨.error failure, held, destination⟩)
    (goal : refused failure (course.onto asked held destination)) :
    (following stalling).ready course asked ∧
      (∀ answer after, (following stalling).turn course asked (.ok answer) after → granted answer after) ∧
      ∀ failure after, (following stalling).turn course asked (.error failure) after → refused failure after :=
  World.only_refused failure ready (following_meets stalling course _ held destination served) goal

end

namespace Store

def keeps (store : Store) (statements : List Sent) : List Sent := statements.takeWhile store.accepts

def refused? (store : Store) (statements : List Sent) : Option Sent := statements.find? fun sent => !store.accepts sent

def hears (store : Store) (statements : List Sent) : List Sent :=
  store.keeps statements ++ (store.refused? statements).toList

def dispatched (store : Store) (statements : List Sent) : Store :=
  if store.refusesAcquire then store else (store.lend.append (store.keeps statements)).takeBack

def requestsOf (store : Store) (statements : List Sent) : List Request :=
  if store.refusesAcquire then [.acquire] else .acquire :: (store.hears statements).map .execute ++ [.release]

theorem append_append (store : Store) (first second : List Sent) :
    (store.append first).append second = store.append (first ++ second) := by
  simp only [append, List.append_assoc]

variable (store : Store) (sent : Sent) (rest : List Sent)

theorem keeps_accepted (accepted : store.accepts sent = true) :
    store.keeps (sent :: rest) = sent :: store.keeps rest :=
  List.takeWhile_cons_of_pos accepted

theorem keeps_refused (unaccepted : store.accepts sent = false) : store.keeps (sent :: rest) = [] :=
  List.takeWhile_cons_of_neg (Bool.eq_false_iff.mp unaccepted)

theorem refused_accepted (accepted : store.accepts sent = true) : store.refused? (sent :: rest) = store.refused? rest :=
  List.find?_cons_of_neg (by simp [accepted])

theorem refused_refused (unaccepted : store.accepts sent = false) : store.refused? (sent :: rest) = some sent :=
  List.find?_cons_of_pos (by simp [unaccepted])

theorem refused_none_iff (statements : List Sent) :
    store.refused? statements = none ↔ statements.all store.accepts = true := by
  simp [refused?]

end Store

namespace Delivery

open Destination (plain plain_acquire plain_release plain_execute_durably plain_execute_refused plain_stalls)

variable {stalling : Prop}

def Blames (refused? : Option Sent) : Outcome → Prop
  | .ok () => refused? = none
  | .error error => ∃ sent failure, refused? = some sent ∧ error = .execute sent.sql failure

theorem send_followed (task : String) (statement : Statement) (store : Store) (asked : List Request)
    (lastErrors : List (String × String)) (post : Outcome → Course → Prop)
    (flowing : stalling ∨ store.stalls statement.sent = false)
    (granted : store.accepts statement.sent = true →
      post (.ok ()) ⟨⟨some .fresh, plain (store.append [statement.sent])⟩, asked ++ [.execute statement.sent], lastErrors⟩)
    (refused : store.accepts statement.sent = false → ∀ failure,
      post (.error (.execute statement.sql failure))
        ⟨⟨some .fresh, plain store⟩, asked ++ [.execute statement.sent], lastErrors⟩) :
    (send task statement).Ensures (following stalling) post ⟨⟨some .fresh, plain store⟩, asked, lastErrors⟩ := by
  rw [send_ensures]
  have ready : (following stalling).ready ⟨⟨some .fresh, plain store⟩, asked, lastErrors⟩ (.execute statement.sent) :=
    flowing.imp_right (plain_stalls statement.sent .fresh store)
  cases accepted : store.accepts statement.sent with
  | true =>
    have served := plain_execute_durably statement.sent store accepted
    exact course_granted _ _ _ _ ready served (granted accepted)
  | false =>
    obtain ⟨failure, served⟩ := plain_execute_refused statement.sent .fresh store rfl accepted
    exact course_refused _ _ _ _ ready served (refused accepted failure)

-- What is accepted is in the log before the next statement goes out, so the store varies
-- along the statements.
theorem send_all_followed (task : String) (statements : List Statement) (store : Store) (asked : List Request)
    (lastErrors : List (String × String)) (post : Outcome → Course → Prop)
    (flowing : stalling ∨ ∀ statement ∈ statements, store.stalls statement.sent = false)
    (ended : ∀ outcome, Blames (store.refused? (statements.map Statement.sent)) outcome →
      post outcome ⟨⟨some .fresh, plain (store.append (store.keeps (statements.map Statement.sent)))⟩,
        asked ++ (store.hears (statements.map Statement.sent)).map .execute, lastErrors⟩) :
    (sendAll task statements).Ensures (following stalling) post ⟨⟨some .fresh, plain store⟩, asked, lastErrors⟩ := by
  induction statements generalizing store asked with
  | nil =>
    have done := ended (.ok ()) rfl
    simp only [List.map_nil, Store.keeps, Store.hears, Store.refused?, Store.append, List.takeWhile_nil, List.find?_nil,
      Option.toList_none, List.append_nil] at done
    exact done
  | cons statement rest ih =>
    rw [send_all_ensures]
    simp only [List.map_cons] at ended
    apply send_followed
    · exact flowing.imp_right fun all => all statement (by simp)
    · intro accepted
      rw [Store.hears, Store.keeps_accepted _ _ _ accepted, Store.refused_accepted _ _ _ accepted] at ended
      apply ih
      · exact flowing.imp_right fun all other member => all other (by simp [member])
      · intro outcome blames
        have done := ended outcome blames
        rw [List.cons_append, List.map_cons, List.append_cons] at done
        rw [Store.append_append]
        exact done
    · intro unaccepted failure
      rw [Store.hears, Store.keeps_refused _ _ _ unaccepted, Store.refused_refused _ _ _ unaccepted] at ended
      have done := ended (.error (.execute statement.sql failure)) ⟨statement.sent, failure, rfl, rfl⟩
      rw [Store.append, List.append_nil] at done
      exact done

theorem visit_followed (task : String) (statements : List Statement) (store : Store)
    (lastErrors : List (String × String)) (post : Outcome → Course → Prop)
    (flowing : stalling ∨ ∀ statement ∈ statements, store.stalls statement.sent = false)
    (turned : store.refusesAcquire = true → ∀ failure,
      post (.error (.acquire failure)) ⟨⟨none, plain store⟩, [.acquire], lastErrors⟩)
    (ended : store.refusesAcquire = false → ∀ outcome, Blames (store.refused? (statements.map Statement.sent)) outcome →
      post outcome ⟨⟨some .givenBack, plain (store.lend.append (store.keeps (statements.map Statement.sent))).takeBack⟩,
        .acquire :: (store.hears (statements.map Statement.sent)).map .execute ++ [.release], lastErrors⟩) :
    (connected (sendAll task statements)).Ensures (following stalling) post ⟨⟨none, plain store⟩, [], lastErrors⟩ := by
  rw [connected_ensures]
  have served := plain_acquire store
  by_cases refuses : store.refusesAcquire = true
  · rw [if_pos refuses] at served
    exact course_refused _ _ _ _ (.inr rfl) served (turned refuses _)
  · rw [if_neg refuses] at served
    apply course_granted _ _ _ _ (.inr rfl) served
    apply send_all_followed
    · exact flowing
    · intro outcome blames
      rw [give_back_ensures]
      apply course_granted _ _ _ _ (.inr rfl) (plain_release .fresh _ rfl)
      exact ended (Bool.eq_false_iff.mpr refuses) outcome blames

theorem closing_followed (task table : String) (counter : Bool → Counter) (outcome : Outcome) (course : Course) :
    (following stalling).notes course (closing task table counter outcome) =
      match outcome with
      | .ok () => course
      | .error error => { course with lastErrors := (task, error.message) :: course.lastErrors } := by
  cases outcome with
  | ok done => rfl
  | error error => rfl

structure Dispatched (task : String) (sends : List Sent) (store : Store) (lastErrors : List (String × String))
    (ok : Bool) (after : Course) : Prop where
  decided : ok = (!store.refusesAcquire && sends.all store.accepts)
  left : after.standing.destination.drop after.standing.held = plain (store.dispatched sends)
  asked : after.asked = store.requestsOf sends
  blamed : store.refusesAcquire = false → ∀ sent, store.refused? sends = some sent →
    ∃ failure, after.lastErrors = (task, (DeliveryError.execute sent.sql failure).message) :: lastErrors

theorem send_ddl_followed (task : String) (ddl : DdlStatement) (store : Store) (lastErrors : List (String × String))
    (flowing : stalling ∨ ∀ statement ∈ ddlStatements ddl, store.stalls statement.sent = false) :
    (sendDdl task ddl).Ensures (following stalling)
      (Dispatched task ((ddlStatements ddl).map Statement.sent) store lastErrors) ⟨⟨none, plain store⟩, [], lastErrors⟩ := by
  rw [sendDdl, Dialogue.ensures_bind, Dialogue.ensures_log, Dialogue.ensures_bind]
  simp only [settle_ensures, closing_followed]
  apply visit_followed
  · exact flowing
  · intro refuses failure
    constructor
    · rw [refuses]
      rfl
    · rw [Store.dispatched, if_pos refuses]
      rfl
    · rw [Store.requestsOf, if_pos refuses]
    · intro opens
      exact absurd refuses (Bool.eq_false_iff.mp opens)
  · intro opens outcome blames
    have acquired : ¬ store.refusesAcquire = true := Bool.eq_false_iff.mp opens
    cases outcome with
    | ok done =>
      have all := (Store.refused_none_iff store _).mp blames
      constructor
      · rw [opens, all]
        rfl
      · rw [Store.dispatched, if_neg acquired]
        rfl
      · rw [Store.requestsOf, if_neg acquired]
      · intro _ sent found
        cases blames.symm.trans found
    | error error =>
      obtain ⟨refused, failure, found, rfl⟩ := blames
      have some_refused : ((ddlStatements ddl).map Statement.sent).all store.accepts = false := by
        apply Bool.eq_false_iff.mpr
        intro all
        cases found.symm.trans ((Store.refused_none_iff store _).mpr all)
      constructor
      · rw [some_refused, Bool.and_false]
        rfl
      · rw [Store.dispatched, if_neg acquired]
        rfl
      · rw [Store.requestsOf, if_neg acquired]
      · intro _ sent same
        cases found.symm.trans same
        exact ⟨failure, rfl⟩

end Delivery

end ChangeApply
