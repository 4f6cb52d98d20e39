import ChangeApply.Proofs.Isolation

set_option autoImplicit false

namespace ChangeApply

def Progress.Sound (errand : Errand) (settled : Bool) : Progress → Prop
  | .underWay held rest => rest.Ensures errand.isolation Errand.Concludes ⟨held, settled⟩
  | .returned result => settled = result
  | .stuck _ => True
  | .cancelled => True

theorem Progress.sound_advance (errand : Errand) (settled : Bool) (progress : Progress) (destination : Destination)
    (sound : progress.Sound errand settled) :
    let made := progress.advance destination
    let decisive := made.granted.any errand.decides
    made.progress.Sound errand (settled || decisive) ∧
      made.destination.store.committed =
        destination.store.committed ++ (if decisive then errand.block else []) ∧
      (decisive = true → settled = false) := by
  cases progress with
  | underWay held rest =>
    cases rest with
    | done result => simpa [advance, Sound, Dialogue.Ensures, Errand.Concludes, Destination.committed_drop] using sound
    | report note next =>
      refine ⟨?_, (List.append_nil _).symm, fun impossible => by cases impossible⟩
      rw [advance, Option.any_none, Bool.or_false]
      exact sound
    | ask asked next =>
      by_cases stalls : destination.stalls held asked = true
      · simp [advance, stalls, Sound]
      · obtain ⟨ready, onward⟩ := sound
        obtain ⟨committed, once⟩ := ready destination
        have decided : ∀ granted : Bool,
            (if granted then some asked else none).any errand.decides = (granted && errand.decides asked) := by
          intro granted
          cases granted <;> rfl
        simp only [advance, if_neg stalls, decided]
        exact ⟨onward _ _ ⟨destination, rfl, rfl⟩, committed, once⟩
  | stuck held => exact ⟨trivial, (List.append_nil _).symm, fun impossible => by cases impossible⟩
  | returned result => exact ⟨(Bool.or_false _).trans sound, (List.append_nil _).symm, fun impossible => by cases impossible⟩
  | cancelled => exact ⟨trivial, (List.append_nil _).symm, fun impossible => by cases impossible⟩

theorem Progress.sound_cancel (errand : Errand) (settled : Bool) (progress : Progress) (destination : Destination)
    (sound : progress.Sound errand settled) :
    (progress.cancel destination).1.Sound errand settled ∧
      (progress.cancel destination).2.store.committed = destination.store.committed := by
  cases progress with
  | underWay held rest => exact ⟨trivial, Destination.committed_drop held destination⟩
  | stuck held => exact ⟨trivial, Destination.committed_drop held destination⟩
  | returned result => exact ⟨sound, rfl⟩
  | cancelled => exact ⟨trivial, rfl⟩

structure ErrandCall where
  task : String
  errand : Errand

def ErrandCall.dialogue (call : ErrandCall) : Dialogue Bool := call.errand.dialogue call.task

def Errand.settledBy (errand : Errand) (caller : Nat) (granted : List (Nat × Request)) : Bool :=
  granted.any fun entry => entry.1 = caller && errand.decides entry.2

namespace Interplay

def block? (calls : List ErrandCall) (entry : Nat × Request) : Option (Nat × List Sent) :=
  match calls[entry.1]? with
  | some call => if call.errand.decides entry.2 then some (entry.1, call.errand.block) else none
  | none => none

def blocks (calls : List ErrandCall) (granted : List (Nat × Request)) : List (Nat × List Sent) :=
  granted.filterMap (block? calls)

def blocksOf (calls : List ErrandCall) (granted : List (Nat × Request)) (caller : Nat) : List (List Sent) :=
  ((blocks calls granted).filter fun entry => entry.1 = caller).map Prod.snd

structure Sound (calls : List ErrandCall) (start : List Sent) (now : Interplay) : Prop where
  callers : now.calls.length = calls.length
  committed : now.destination.store.committed = start ++ (blocks calls now.granted).flatMap Prod.snd
  each : ∀ (caller : Nat) (call : ErrandCall) (progress : Progress),
    calls[caller]? = some call → now.calls[caller]? = some progress →
      progress.Sound call.errand (call.errand.settledBy caller now.granted) ∧
        blocksOf calls now.granted caller =
          if call.errand.settledBy caller now.granted then [call.errand.block] else []

variable {calls : List ErrandCall} {start : List Sent} {now : Interplay}

section

variable (now) (mover : Nat) (progress : Progress)

theorem blocks_advance (moving : ErrandCall) (found : calls[mover]? = some moving) :
    blocks calls (now.advance mover progress).granted =
      blocks calls now.granted ++
        if (progress.advance now.destination).granted.any moving.errand.decides then [(mover, moving.errand.block)]
        else [] := by
  rw [advance, blocks, List.filterMap_append]
  congr 1
  cases (progress.advance now.destination).granted with
  | none => rfl
  | some asked => cases decided : moving.errand.decides asked <;> simp [block?, found, decided]

theorem blocks_of_advance (moving : ErrandCall) (found : calls[mover]? = some moving) (caller : Nat) :
    blocksOf calls (now.advance mover progress).granted caller =
      blocksOf calls now.granted caller ++
        if mover = caller && (progress.advance now.destination).granted.any moving.errand.decides then
          [moving.errand.block]
        else [] := by
  rw [blocksOf, blocks_advance now mover progress moving found, List.filter_append, List.map_append, blocksOf]
  congr 1
  by_cases same : mover = caller
  · cases (progress.advance now.destination).granted.any moving.errand.decides <;> simp [same]
  · cases (progress.advance now.destination).granted.any moving.errand.decides <;> simp [same]

theorem settled_by_advance (errand : Errand) (caller : Nat) :
    errand.settledBy caller (now.advance mover progress).granted =
      (errand.settledBy caller now.granted ||
        (mover = caller && (progress.advance now.destination).granted.any errand.decides)) := by
  rw [advance, Errand.settledBy, List.any_append]
  cases (progress.advance now.destination).granted <;> simp [Errand.settledBy]

end

theorem found_of_progress (sound : Sound calls start now) (caller : Nat) (progress : Progress)
    (current : now.calls[caller]? = some progress) : ∃ call, calls[caller]? = some call := by
  obtain ⟨inside, -⟩ := List.getElem?_eq_some_iff.mp current
  rw [sound.callers] at inside
  exact ⟨calls[caller], List.getElem?_eq_getElem inside⟩

theorem each_set (P : Nat → ErrandCall → Progress → Prop) (mover : Nat) (moving : ErrandCall) (left : Progress)
    (found : calls[mover]? = some moving) (moved : P mover moving left)
    (others : ∀ (caller : Nat) (call : ErrandCall) (progress : Progress), mover ≠ caller → calls[caller]? = some call →
      now.calls[caller]? = some progress → P caller call progress) :
    ∀ (caller : Nat) (call : ErrandCall) (progress : Progress), calls[caller]? = some call →
      (now.calls.set mover left)[caller]? = some progress → P caller call progress := by
  intro caller call progress named standing
  by_cases same : mover = caller
  · subst same
    cases found.symm.trans named
    obtain ⟨inside, reached⟩ := List.getElem?_eq_some_iff.mp standing
    rw [List.getElem_set_self] at reached
    exact reached ▸ moved
  · rw [List.getElem?_set_ne same] at standing
    exact others caller call progress same named standing

theorem sound_advance (sound : Sound calls start now) (mover : Nat) (progress : Progress)
    (current : now.calls[mover]? = some progress) : Sound calls start (now.advance mover progress) := by
  obtain ⟨moving, found⟩ := found_of_progress sound mover progress current
  obtain ⟨before, blocked⟩ := sound.each mover moving progress found current
  obtain ⟨after, committed, once⟩ := progress.sound_advance moving.errand _ now.destination before
  refine ⟨by rw [advance, List.length_set]; exact sound.callers, ?_, each_set _ mover moving _ found ?_ ?_⟩
  · rw [blocks_advance now mover progress moving found, List.flatMap_append, ← List.append_assoc, ← sound.committed]
    refine committed.trans ?_
    cases (progress.advance now.destination).granted.any moving.errand.decides <;> simp
  · rw [blocks_of_advance now mover progress moving found, blocked]
    simp only [settled_by_advance, decide_true, Bool.true_and]
    refine ⟨after, ?_⟩
    cases decisive : (progress.advance now.destination).granted.any moving.errand.decides with
    | true => simp [once decisive]
    | false => simp
  · intro caller call left apart named standing
    rw [blocks_of_advance now mover progress moving found]
    simp only [settled_by_advance, apart, decide_false, Bool.false_and, Bool.or_false, Bool.false_eq_true, if_false,
      List.append_nil]
    exact sound.each caller call left named standing

theorem sound_cancel (sound : Sound calls start now) (mover : Nat) (progress : Progress)
    (current : now.calls[mover]? = some progress) : Sound calls start (now.cancel mover progress) := by
  obtain ⟨moving, found⟩ := found_of_progress sound mover progress current
  obtain ⟨before, blocked⟩ := sound.each mover moving progress found current
  obtain ⟨after, committed⟩ := progress.sound_cancel moving.errand _ now.destination before
  refine ⟨by rw [cancel, List.length_set]; exact sound.callers, committed.trans sound.committed, ?_⟩
  refine each_set _ mover moving _ found ⟨after, blocked⟩ fun caller call left _ named standing => ?_
  exact sound.each caller call left named standing

theorem sound_move (move : Move) (sound : Sound calls start now) : Sound calls start (now.move move) := by
  cases move with
  | advance mover =>
    cases current : now.calls[mover]? with
    | none => simpa only [Interplay.move, current] using sound
    | some progress => simpa only [Interplay.move, current] using sound_advance sound mover progress current
  | cancel mover =>
    cases current : now.calls[mover]? with
    | none => simpa only [Interplay.move, current] using sound
    | some progress => simpa only [Interplay.move, current] using sound_cancel sound mover progress current
  | setFaults faults => exact ⟨sound.callers, sound.committed, sound.each⟩
  | obstruct kind fault => exact ⟨sound.callers, sound.committed, sound.each⟩

theorem sound_run (moves : List Move) (sound : Sound calls start now) : Sound calls start (now.run moves) := by
  induction moves generalizing now with
  | nil => exact sound
  | cons first rest ih => exact ih (sound_move first sound)

theorem sound_opening (calls : List ErrandCall) (destination : Destination) :
    Sound calls destination.store.committed (opening (calls.map ErrandCall.dialogue) destination) := by
  refine ⟨by simp [opening], (List.append_nil _).symm, ?_⟩
  intro caller call progress named standing
  rw [opening, List.getElem?_map, List.getElem?_map, named] at standing
  cases standing
  exact ⟨call.errand.dialogue_isolated call.task, rfl⟩

theorem whole_of_mem_blocks (granted : List (Nat × Request)) (entry : Nat × List Sent)
    (member : entry ∈ blocks calls granted) :
    ∃ call, calls[entry.1]? = some call ∧ entry.2 = call.errand.block := by
  obtain ⟨⟨caller, asked⟩, -, block⟩ := List.mem_filterMap.mp member
  cases found : calls[caller]? with
  | none => simp [block?, found] at block
  | some call =>
    cases decided : call.errand.decides asked with
    | false => simp [block?, found, decided] at block
    | true =>
      simp only [block?, found, decided, if_true, Option.some.injEq] at block
      subst block
      exact ⟨call, found, rfl⟩

end Interplay

theorem interleaved_calls_commit_whole_blocks (calls : List ErrandCall) (destination : Destination) (moves : List Move) :
    let now := (Interplay.opening (calls.map ErrandCall.dialogue) destination).run moves
    now.destination.store.committed =
        destination.store.committed ++ (Interplay.blocks calls now.granted).flatMap Prod.snd ∧
      (∀ entry ∈ Interplay.blocks calls now.granted,
        ∃ call, calls[entry.1]? = some call ∧ entry.2 = call.errand.block) ∧
      ∀ (caller : Nat) (call : ErrandCall), calls[caller]? = some call →
        ∃ progress, now.calls[caller]? = some progress ∧
          (progress = .returned true → Interplay.blocksOf calls now.granted caller = [call.errand.block]) ∧
          (progress = .returned false → Interplay.blocksOf calls now.granted caller = []) ∧
          Interplay.blocksOf calls now.granted caller =
            if call.errand.settledBy caller now.granted then [call.errand.block] else [] := by
  intro now
  have sound := Interplay.sound_run moves (Interplay.sound_opening calls destination)
  change Interplay.Sound calls destination.store.committed now at sound
  refine ⟨sound.committed, Interplay.whole_of_mem_blocks now.granted, fun caller call named => ?_⟩
  obtain ⟨inside, -⟩ := List.getElem?_eq_some_iff.mp named
  rw [← sound.callers] at inside
  have standing : now.calls[caller]? = some now.calls[caller] := List.getElem?_eq_getElem inside
  obtain ⟨reached, committed⟩ := sound.each caller call _ named standing
  refine ⟨_, standing, ?_, ?_, committed⟩
  · intro returned
    rw [returned] at reached
    have settled : call.errand.settledBy caller now.granted = true := reached
    rw [committed, settled, if_pos rfl]
  · intro returned
    rw [returned] at reached
    have unsettled : call.errand.settledBy caller now.granted = false := reached
    rw [committed, unsettled, if_neg (by simp)]

end ChangeApply
