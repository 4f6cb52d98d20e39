import ChangeApply.Proofs.Serving

set_option autoImplicit false

namespace ChangeApply

inductive Progress where
  | underWay (held : Option Connection) (rest : Dialogue Bool)
  | stuck (held : Option Connection)
  | returned (result : Bool)
  | cancelled

structure Advance where
  progress : Progress
  destination : Destination
  granted : Option Request

namespace Progress

def advance (destination : Destination) : Progress → Advance
  | .underWay held (.done result) => ⟨.returned result, destination.drop held, none⟩
  | .underWay held (.report _ next) => ⟨.underWay held next, destination, none⟩
  | .underWay held (.ask asked next) =>
    if destination.stalls held asked then ⟨.stuck held, destination, none⟩
    else
      let turn := destination.serve held asked
      ⟨.underWay turn.held (next turn.reply), turn.destination, if turn.reply.isOk then some asked else none⟩
  | progress => ⟨progress, destination, none⟩

def cancel (destination : Destination) : Progress → Progress × Destination
  | .underWay held _ => (.cancelled, destination.drop held)
  | .stuck held => (.cancelled, destination.drop held)
  | progress => (progress, destination)

end Progress

inductive Move where
  | advance (caller : Nat)
  | cancel (caller : Nat)
  | setFaults (faults : Faults)
  | obstruct (kind : Request.Kind) (fault : Option Failure)

-- `granted` is what was asked and granted so far, with who asked.
structure Interplay where
  destination : Destination
  calls : List Progress
  granted : List (Nat × Request)

namespace Interplay

def opening (dialogues : List (Dialogue Bool)) (destination : Destination) : Interplay :=
  ⟨destination, dialogues.map (.underWay none), []⟩

def advance (now : Interplay) (caller : Nat) (progress : Progress) : Interplay :=
  let made := progress.advance now.destination
  ⟨made.destination, now.calls.set caller made.progress, now.granted ++ made.granted.toList.map (caller, ·)⟩

def cancel (now : Interplay) (caller : Nat) (progress : Progress) : Interplay :=
  let (left, destination) := progress.cancel now.destination
  ⟨destination, now.calls.set caller left, now.granted⟩

def move (now : Interplay) : Move → Interplay
  | .advance caller =>
    match now.calls[caller]? with
    | some progress => now.advance caller progress
    | none => now
  | .cancel caller =>
    match now.calls[caller]? with
    | some progress => now.cancel caller progress
    | none => now
  | .setFaults faults =>
    { now with destination := { now.destination with store := now.destination.store.under faults } }
  | .obstruct kind fault => { now with destination := now.destination.setFault kind fault }

def run (now : Interplay) (moves : List Move) : Interplay := moves.foldl move now

theorem run_cons (now : Interplay) (first : Move) (rest : List Move) :
    now.run (first :: rest) = (now.move first).run rest :=
  rfl

def alone (progress : Progress) (destination : Destination) (granted : List (Nat × Request)) : Interplay :=
  ⟨destination, [progress], granted⟩

theorem move_alone (progress : Progress) (destination : Destination) (granted : List (Nat × Request)) :
    (alone progress destination granted).move (.advance 0) =
      alone (progress.advance destination).progress (progress.advance destination).destination
        (granted ++ (progress.advance destination).granted.toList.map (0, ·)) :=
  rfl

end Interplay

def Progress.EndsAs (run : Run Bool) (destination : Destination) : Progress → Prop
  | .returned result => run.result = some result ∧ destination = run.destination
  | .stuck held => run.result = none ∧ destination.drop held = run.destination
  | _ => False

theorem undisturbed_call_runs (dialogue : Dialogue Bool) (held : Option Connection) (destination : Destination)
    (granted : List (Nat × Request)) :
    ∃ steps progress last asked,
      (Interplay.alone (.underWay held dialogue) destination granted).run (.replicate steps (.advance 0)) =
          .alone progress last asked ∧
        progress.EndsAs (dialogue.runFrom held destination) last := by
  induction dialogue generalizing held destination granted with
  | done result => exact ⟨1, .returned result, destination.drop held, granted ++ [], rfl, rfl, rfl⟩
  | report note rest ih =>
    obtain ⟨steps, progress, last, asked, ran, ends⟩ := ih held destination (granted ++ [])
    exact ⟨steps + 1, progress, last, asked, ran, ends⟩
  | ask asked rest ih =>
    by_cases stalls : destination.stalls held asked = true
    · refine ⟨1, .stuck held, destination, granted ++ [], ?_, ?_⟩
      · rw [List.replicate_one, Interplay.run_cons, Interplay.move_alone, Progress.advance, if_pos stalls]
        rfl
      · rw [Dialogue.runFrom, if_pos stalls]
        exact ⟨rfl, rfl⟩
    · obtain ⟨steps, progress, last, asked, ran, ends⟩ := ih (destination.serve held asked).reply
        (destination.serve held asked).held (destination.serve held asked).destination _
      refine ⟨steps + 1, progress, last, asked, ?_, ?_⟩
      · rw [List.replicate_succ, Interplay.run_cons, Interplay.move_alone, Progress.advance, if_neg stalls]
        exact ran
      · rw [Dialogue.runFrom, if_neg stalls]
        exact ends

end ChangeApply
