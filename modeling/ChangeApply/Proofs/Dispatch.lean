import ChangeApply.Proofs.Correlation
import ChangeApply.Proofs.Course
import Mathlib.Data.List.TakeWhile

set_option autoImplicit false

namespace ChangeApply

structure DdlCall where
  faults : Faults
  hint : Hint
  task : String
  statement : String
  schema : String
  kind : DdlKind
  token : String

namespace DdlCall

def text (call : DdlCall) : String :=
  if call.kind.isDatabaseLevel then call.statement else call.hint.render call.token ++ call.statement

def use (call : DdlCall) : String := "USE " ++ Identifier.quote call.schema

def InSchema (call : DdlCall) : Prop := call.kind.isDatabaseLevel = false ∧ call.schema ≠ ""

instance (call : DdlCall) : Decidable call.InSchema := inferInstanceAs (Decidable (_ ∧ _))

def texts (call : DdlCall) : List String := if call.InSchema then [call.use, call.text] else [call.text]

def sends (call : DdlCall) : List Sent := call.texts.map fun text => ⟨text, []⟩

def passes (call : DdlCall) (text : String) : Bool :=
  call.faults.failingPatterns.all fun pattern => !Text.contains text pattern

def Flows (call : DdlCall) : Prop :=
  ∀ text ∈ call.texts, ∀ pattern ∈ call.faults.stallingPatterns, Text.contains text pattern = false

def Succeeds (call : DdlCall) : Prop :=
  call.faults.refusesAcquire = false ∧
    ∀ text ∈ call.texts, ∀ pattern ∈ call.faults.failingPatterns, Text.contains text pattern = false

def keeps (call : DdlCall) : List Sent :=
  if call.faults.refusesAcquire then [] else (call.texts.takeWhile call.passes).map fun text => ⟨text, []⟩

def prepared (call : DdlCall) : DdlStatement :=
  .prepare call.statement call.schema call.kind call.token call.hint

def dialogue (call : DdlCall) : Dialogue Bool :=
  Delivery.deliverDdl call.hint call.task call.statement call.schema call.kind call.token

theorem sends_eq (call : DdlCall) : (Delivery.ddlStatements call.prepared).map Statement.sent = call.sends := by
  by_cases whole : call.kind.isDatabaseLevel = true
  · have outside : ¬ call.InSchema := fun inside => Bool.eq_false_iff.mp inside.1 whole
    have prepared : call.prepared = ⟨call.statement, "", call.statement, call.token⟩ := if_pos whole
    rw [prepared, sends, texts, if_neg outside, text, if_pos whole]
    rfl
  · have prepared : call.prepared =
        ⟨call.hint.render call.token ++ call.statement, call.schema, call.statement, call.token⟩ := if_neg whole
    by_cases unnamed : call.schema = ""
    · have outside : ¬ call.InSchema := fun inside => inside.2 unnamed
      rw [prepared, sends, texts, if_neg outside, text, if_neg whole, Delivery.ddlStatements, if_pos (by simp [unnamed])]
      rfl
    · have inside : call.InSchema := ⟨Bool.eq_false_iff.mpr whole, unnamed⟩
      rw [prepared, sends, texts, if_pos inside, text, if_neg whole, Delivery.ddlStatements, if_neg (by simp [unnamed])]
      rfl

variable (call : DdlCall) (store : Store)

theorem passes_iff (text : String) :
    call.passes text = true ↔ ∀ pattern ∈ call.faults.failingPatterns, Text.contains text pattern = false := by
  simp [passes]

theorem accepts_under (text : String) : (store.under call.faults).accepts ⟨text, []⟩ = call.passes text := by
  rw [Bool.eq_iff_iff, Store.accepts_iff, passes_iff]
  rfl

theorem keeps_under (opens : call.faults.refusesAcquire = false) :
    (store.under call.faults).keeps call.sends = call.keeps := by
  rw [keeps, if_neg (Bool.eq_false_iff.mp opens), Store.keeps, sends, List.takeWhile_map]
  congr 2
  funext text
  exact call.accepts_under store text

theorem refused_under : (store.under call.faults).refused? call.sends =
    (call.texts.find? fun text => !call.passes text).map fun text => ⟨text, []⟩ := by
  rw [Store.refused?, sends, List.find?_map]
  congr 2
  funext text
  exact congrArg not (call.accepts_under store text)

theorem granted_under : (!(store.under call.faults).refusesAcquire && call.sends.all (store.under call.faults).accepts) = true ↔
    call.Succeeds := by
  rw [Bool.and_eq_true, Bool.not_eq_true', sends, List.all_map, List.all_eq_true]
  apply and_congr_right
  intro _
  apply forall₂_congr
  intro text _
  rw [Function.comp_apply, accepts_under, passes_iff]

theorem text_ne_use (inside : call.kind.isDatabaseLevel = false) : call.text ≠ call.use := by
  intro same
  rw [text, if_neg (Bool.eq_false_iff.mp inside), use] at same
  have letters := congrArg (fun text => text.toList.head?) same
  have opening : (DdlStatement.openingOf call.hint).head? = some '/' := by cases call.hint <;> decide
  have using_it : "USE ".toList.head? = some 'U' := by decide
  simp only [String.toList_append, DdlStatement.hint_to_list, List.head?_append, opening, using_it, Option.some_or] at letters
  exact absurd letters (by decide)

theorem keeps_of_text (inside : call.InSchema) (kept : ⟨call.text, []⟩ ∈ call.keeps) :
    call.keeps = [⟨call.use, []⟩, ⟨call.text, []⟩] := by
  have texts : call.texts = [call.use, call.text] := if_pos inside
  rw [keeps] at kept ⊢
  by_cases refuses : call.faults.refusesAcquire = true
  · rw [if_pos refuses] at kept
    cases kept
  · rw [if_neg refuses, texts] at kept ⊢
    by_cases used : call.passes call.use = true
    · by_cases passed : call.passes call.text = true
      · simp [List.takeWhile, used, passed]
      · have apart := call.text_ne_use inside.1
        simp [List.takeWhile, used, passed, apart] at kept
    · simp [List.takeWhile, used] at kept

end DdlCall

structure MadeDdl where
  call : DdlCall
  before : DryRun

namespace MadeDdl

def store (made : MadeDdl) : Store := made.before.destination.store.under made.call.faults

def readied (made : MadeDdl) : DryRun :=
  { made.before with
    settings := { made.before.settings with hint := made.call.hint }
    destination := .plain made.store }

def entry (made : MadeDdl) : DryRun.Entry :=
  made.readied.entry (.deliverDdl made.call.task made.call.statement made.call.schema made.call.kind made.call.token)

def requests (made : MadeDdl) : List Request := made.call.dialogue.requests made.readied.destination

def course (made : MadeDdl) : Course := ⟨⟨none, .plain made.store⟩, [], made.before.lastErrors⟩

def inTurn : List DdlCall → DryRun → List MadeDdl
  | [], _ => []
  | call :: rest, run => ⟨call, run⟩ :: inTurn rest (entry ⟨call, run⟩).after

def last (calls : List DdlCall) (run : DryRun) : DryRun := calls.foldl (fun run call => (entry ⟨call, run⟩).after) run

open Delivery (Dispatched)

theorem call_followed (made : MadeDdl) (stalling : Prop) (flowing : stalling ∨ made.call.Flows) :
    (stalling ∧ (made.call.dialogue.run (.plain made.store)).result = none) ∨
      ∃ ok after, Dispatched made.call.task made.call.sends made.store made.before.lastErrors ok after ∧
        made.call.dialogue.EndsAs made.course ok after := by
  apply Dialogue.run_followed stalling _ made.call.dialogue made.course
  rw [← made.call.sends_eq]
  apply Delivery.send_ddl_followed
  apply flowing.imp_right
  intro flows statement member
  have sent : statement.sent ∈ made.call.sends := by
    rw [← made.call.sends_eq]
    exact List.mem_map_of_mem member
  obtain ⟨text, among, same⟩ := List.mem_map.mp sent
  rw [← same, Store.not_stalls_iff]
  exact flows text among

theorem flowing_followed (made : MadeDdl) (flows : made.call.Flows) :
    ∃ ok after, Dispatched made.call.task made.call.sends made.store made.before.lastErrors ok after ∧
      made.call.dialogue.EndsAs made.course ok after := by
  rcases made.call_followed False (.inr flows) with stalled | followed
  · exact stalled.1.elim
  · exact followed

variable (made : MadeDdl)

theorem entry_ended (ok : Bool) (after : Course) (ended : made.call.dialogue.EndsAs made.course ok after) :
    made.entry.result = .truth ok ∧
      made.entry.after.destination = after.standing.destination.drop after.standing.held ∧
      made.entry.after.lastErrors = after.lastErrors := by
  have called := made.readied.call_ended made.call.dialogue .truth ok after ended
  have stepped : made.entry.result = (made.readied.call made.call.dialogue .truth).1 ∧
      made.entry.after = (made.readied.call made.call.dialogue .truth).2.2 := ⟨rfl, rfl⟩
  rw [stepped.1, stepped.2, called]
  exact ⟨rfl, rfl, rfl⟩

theorem result_of_stalled (stuck : (made.call.dialogue.run (.plain made.store)).result = none) :
    made.entry.result = .stalled := by
  change (made.readied.call made.call.dialogue .truth).1 = .stalled
  have same : made.readied.destination = .plain made.store := rfl
  rw [DryRun.call, same, stuck]

theorem committed_dispatched : (made.store.dispatched made.call.sends).committed =
    made.before.destination.store.committed ++ made.call.keeps := by
  have same : made.store.refusesAcquire = made.call.faults.refusesAcquire := rfl
  rw [Store.dispatched, same]
  by_cases refuses : made.call.faults.refusesAcquire = true
  · rw [if_pos refuses, DdlCall.keeps, if_pos refuses, List.append_nil]
    rfl
  · rw [if_neg refuses, store, made.call.keeps_under _ (Bool.eq_false_iff.mpr refuses)]
    rfl

theorem committed_after (flows : made.call.Flows) :
    made.entry.after.destination.store.committed = made.before.destination.store.committed ++ made.call.keeps := by
  obtain ⟨ok, after, dispatched, ended⟩ := made.flowing_followed flows
  rw [(made.entry_ended ok after ended).2.1, dispatched.left]
  exact made.committed_dispatched

theorem added_eq (flows : made.call.Flows) : made.entry.added = made.call.keeps := by
  change made.entry.after.destination.store.committed.drop made.before.destination.store.committed.length = _
  rw [made.committed_after flows, List.drop_left]

theorem committed_of_true (sent : made.entry.result = .truth true) :
    made.entry.after.destination.store.committed = made.before.destination.store.committed ++ made.call.sends := by
  rcases made.call_followed True (.inl trivial) with ⟨-, stuck⟩ | ⟨ok, after, dispatched, ended⟩
  · rw [made.result_of_stalled stuck] at sent
    cases sent
  · have left := made.entry_ended ok after ended
    rw [left.1] at sent
    cases sent
    have granted := dispatched.decided.symm
    rw [Bool.and_eq_true, Bool.not_eq_true'] at granted
    have all : made.store.keeps made.call.sends = made.call.sends :=
      List.takeWhile_eq_self_iff.mpr (List.all_eq_true.mp granted.2)
    rw [left.2.1, dispatched.left, Store.dispatched, if_neg (Bool.eq_false_iff.mp granted.1), all]
    rfl

structure DispatchedInOrder (made : MadeDdl) : Prop where
  truth : made.entry.result = .truth true ↔ made.call.Succeeds
  falsity : made.entry.result = .truth false ↔ ¬ made.call.Succeeds
  added : made.entry.added = made.call.keeps
  log : made.entry.after.destination.store.committed = made.before.destination.store.committed ++ made.entry.added
  unsent : made.call.InSchema → made.call.passes made.call.use = false →
    Request.execute ⟨made.call.text, []⟩ ∉ made.requests
  blamed : ∀ passed text rest, made.call.faults.refusesAcquire = false → made.call.texts = passed ++ text :: rest →
    (∀ earlier ∈ passed, made.call.passes earlier = true) → made.call.passes text = false →
    ∃ message, made.entry.after.lastError? made.call.task = some message ∧ Text.contains message text = true

theorem requests_after (flows : made.call.Flows) : made.requests = made.store.requestsOf made.call.sends := by
  obtain ⟨ok, after, dispatched, ended⟩ := made.flowing_followed flows
  have asked : after.asked = [] ++ made.requests := ended.asked
  rw [← dispatched.asked, asked, List.nil_append]

theorem result_eq (flows : made.call.Flows) :
    ∃ ok, made.entry.result = .truth ok ∧ (ok = true ↔ made.call.Succeeds) := by
  obtain ⟨ok, after, dispatched, ended⟩ := made.flowing_followed flows
  have granted := made.call.granted_under made.before.destination.store
  change (!made.store.refusesAcquire && made.call.sends.all made.store.accepts) = true ↔ _ at granted
  rw [← dispatched.decided] at granted
  exact ⟨ok, (made.entry_ended ok after ended).1, granted⟩

theorem blamed_after (flows : made.call.Flows) (opens : made.call.faults.refusesAcquire = false) (text : String)
    (found : (made.call.texts.find? fun text => !made.call.passes text) = some text) :
    ∃ message, made.entry.after.lastError? made.call.task = some message ∧ Text.contains message text = true := by
  obtain ⟨ok, after, dispatched, ended⟩ := made.flowing_followed flows
  have refused : made.store.refused? made.call.sends = some ⟨text, []⟩ := by
    rw [store, DdlCall.refused_under, found]
    rfl
  obtain ⟨failure, noted⟩ := dispatched.blamed opens ⟨text, []⟩ refused
  have named : made.entry.after.lastError? made.call.task = some (DeliveryError.execute text failure).message := by
    rw [DryRun.lastError?, (made.entry_ended ok after ended).2.2, noted, List.lookup_cons_self]
  have spelled : (DeliveryError.execute text failure).message =
      "failed to execute `" ++ text ++ ("`: " ++ failure.text) := String.append_assoc
  have quoted : text.toList <:+: (DeliveryError.execute text failure).message.toList := by
    rw [spelled, String.toList_append, String.toList_append]
    exact List.infix_append _ _ _
  exact ⟨_, named, (Text.contains_iff _ _).mpr quoted⟩

theorem unsent_after (flows : made.call.Flows) (inside : made.call.InSchema)
    (unused : made.call.passes made.call.use = false) : Request.execute ⟨made.call.text, []⟩ ∉ made.requests := by
  have refused : made.store.accepts ⟨made.call.use, []⟩ = false := by
    rw [store, DdlCall.accepts_under]
    exact unused
  have sends : made.call.sends = [⟨made.call.use, []⟩, ⟨made.call.text, []⟩] := by
    rw [DdlCall.sends, DdlCall.texts, if_pos inside]
    rfl
  rw [made.requests_after flows, Store.requestsOf]
  by_cases refuses : made.store.refusesAcquire = true
  · rw [if_pos refuses]
    simp
  · rw [if_neg refuses, sends, Store.hears, Store.keeps_refused _ _ _ refused, Store.refused_refused _ _ _ refused]
    have apart := made.call.text_ne_use inside.1
    simp [apart]

theorem in_order (flows : made.call.Flows) : made.DispatchedInOrder := by
  obtain ⟨ok, result, granted⟩ := made.result_eq flows
  constructor
  case truth =>
    rw [result, DryRun.Result.truth.injEq]
    exact granted
  case falsity =>
    rw [result, DryRun.Result.truth.injEq, ← granted, Bool.not_eq_true]
  case added => exact made.added_eq flows
  case log => rw [made.committed_after flows, made.added_eq flows]
  case unsent => exact made.unsent_after flows
  case blamed =>
    intro passed text rest opens split before refused
    apply made.blamed_after flows opens
    rw [List.find?_eq_some_iff_append]
    have found : (!made.call.passes text) = true := by rw [refused]; rfl
    refine ⟨found, passed, rest, split, ?_⟩
    intro earlier member
    rw [before earlier member]
    rfl

theorem call_mem_of_in_turn (calls : List DdlCall) (run : DryRun) (made : MadeDdl) (member : made ∈ inTurn calls run) :
    made.call ∈ calls := by
  induction calls generalizing run with
  | nil => cases member
  | cons call rest ih =>
    rcases List.mem_cons.mp member with rfl | later
    · exact List.mem_cons_self
    · exact List.mem_cons_of_mem call (ih _ later)

theorem committed_last (calls : List DdlCall) (run : DryRun) (flows : ∀ call ∈ calls, call.Flows) :
    (last calls run).destination.store.committed =
      run.destination.store.committed ++ (inTurn calls run).flatMap fun made => made.entry.added := by
  induction calls generalizing run with
  | nil => simp [last, inTurn]
  | cons call rest ih =>
    have first := (in_order ⟨call, run⟩ (flows call (by simp))).log
    have later := ih (entry ⟨call, run⟩).after fun other member => flows other (by simp [member])
    rw [last, List.foldl_cons, ← last, later, first, inTurn, List.flatMap_cons, List.append_assoc]

end MadeDdl

theorem ddl_is_dispatched_in_order (run : DryRun) (calls : List DdlCall) (flows : ∀ call ∈ calls, call.Flows) :
    (∀ made ∈ MadeDdl.inTurn calls run, made.DispatchedInOrder) ∧
      (MadeDdl.last calls run).destination.store.committed =
        run.destination.store.committed ++ (MadeDdl.inTurn calls run).flatMap (fun made => made.entry.added) ∧
      ∀ earlier made later, MadeDdl.inTurn calls run = earlier ++ made :: later → made.call.InSchema →
        ⟨made.call.text, []⟩ ∈ made.entry.added →
          (MadeDdl.last calls run).destination.store.committed =
            run.destination.store.committed ++ earlier.flatMap (fun made => made.entry.added) ++
              [⟨made.call.use, []⟩, ⟨made.call.text, []⟩] ++ later.flatMap (fun made => made.entry.added) := by
  have ordered : ∀ made ∈ MadeDdl.inTurn calls run, made.DispatchedInOrder := by
    intro made member
    exact made.in_order (flows made.call (MadeDdl.call_mem_of_in_turn calls run made member))
  have grown := MadeDdl.committed_last calls run flows
  refine ⟨ordered, grown, ?_⟩
  intro earlier made later turns inside kept
  have added := (ordered made (turns ▸ by simp)).added
  rw [added] at kept
  rw [grown, turns, List.flatMap_append, List.flatMap_cons, added, made.call.keeps_of_text inside kept]
  simp only [List.append_assoc]

def addingNote (failing : List String) : DdlCall where
  faults := ⟨failing, ["SELECT"], false, false, false, false⟩
  hint := .plain
  task := "task-1"
  statement := "ALTER TABLE orders ADD note TEXT"
  schema := "shop"
  kind := .alter
  token := "42"

theorem adding_note_flows (failing : List String) : (addingNote failing).Flows := by
  have unfailing : (addingNote []).Flows := by
    unfold DdlCall.Flows
    decide
  exact unfailing

theorem second_alter_follows_its_use :
    (∀ call ∈ [addingNote ["TSO=42"], addingNote []], call.Flows) ∧
      (MadeDdl.last [addingNote ["TSO=42"], addingNote []] (.start .initial)).destination.store.committed =
        [⟨"USE `shop`", []⟩, ⟨"USE `shop`", []⟩,
          ⟨"/*+TDDL:cmd_extra(TSO=42)*/ALTER TABLE orders ADD note TEXT", []⟩] := by
  have flows : ∀ call ∈ [addingNote ["TSO=42"], addingNote []], call.Flows := by
    simp [adding_note_flows]
  refine ⟨flows, ?_⟩
  rw [(ddl_is_dispatched_in_order (.start .initial) _ flows).2.1]
  decide

end ChangeApply
