/- NameRights/Proofs/Feed/Attendance
   digest: A forwarder whose owner listens, and says nothing before the forwarder is gone. -/

import NameRights.Proofs.Feed.Delivery

set_option autoImplicit false
set_option relaxedAutoImplicit false

namespace NameRights

namespace Forwarder

variable {kind : EventKind} {f g : Forwarder kind}

def Stage.isOpen : Stage → Bool
  | .forwarding | .stopping _ => true
  | .leaving _ | .gone => false

/-- A forwarder whose owner listens: the owner holds the sink's other end and has said and collected
nothing. -/
structure Attended (event : Abi.Event) (s : Scene kind) : Prop where
  scene : s.Holds event
  untold : s.forwarder.handle.isTold = false
  heard : s.forwarder.sink.hasReceiver = true
  sender : s.forwarder.sink.hasSender = s.forwarder.stage.isOpen
  quiet : s.forwarder.stage ≠ .gone → s.forwarder.handle.failure = none

private theorem open_of_part {part : Part} (forwarding : f.stage = .forwarding)
    (made : f.part? part = some g) :
    g.stage.isOpen = true ∧ g.sink.hasSender = f.sink.hasSender ∧ g.handle = f.handle := by
  cases moves_of_part forwarding made with
  | quit told => exact ⟨rfl, rfl, rfl⟩
  | fail fed verdict => exact ⟨rfl, rfl, rfl⟩
  | finish fed verdict => exact ⟨congrArg Stage.isOpen forwarding, rfl, rfl⟩
  | push held heard room => exact ⟨congrArg Stage.isOpen forwarding, rfl, rfl⟩
  | unheard held gone => exact ⟨rfl, rfl, rfl⟩
  | take free popped decoded => exact ⟨congrArg Stage.isOpen forwarding, rfl, rfl⟩
  | refuse free popped broken => exact ⟨rfl, rfl, rfl⟩
  | dry free empty closed verdict => exact ⟨rfl, rfl, rfl⟩

section Attended

variable {event : Abi.Event} {s : Scene kind}

theorem attended_start (event : Abi.Event) (feedCapacity sinkCapacity : Nat) :
    Attended event (Scene.start event feedCapacity sinkCapacity : Scene kind) :=
  ⟨Scene.holds_start event feedCapacity sinkCapacity, rfl, rfl, rfl, fun _ => rfl⟩

theorem Attended.outside (attended : Attended event s) (act : Feed.Act) :
    Attended event (s.step (.outside act)) :=
  ⟨attended.scene.outside act, attended.untold, attended.heard, attended.sender, attended.quiet⟩

theorem Attended.part (attended : Attended event s) {p : Part}
    (made : s.forwarder.part? p = some f) :
    Attended event (s.moved f) := by
  have keeps := keeps_of_part made
  have scene : (s.moved f).Holds event := by
    have scene := attended.scene.part p
    simp only [Scene.step, made] at scene
    exact scene
  by_cases forwarding : s.forwarder.stage = .forwarding
  · obtain ⟨still, sender, handle⟩ := open_of_part forwarding made
    refine ⟨scene, keeps.told.trans attended.untold, keeps.heard.trans attended.heard, ?_, ?_⟩
    · change f.sink.hasSender = f.stage.isOpen
      rw [sender, attended.sender, forwarding, still]
      rfl
    · intro _
      change f.handle.failure = none
      rw [handle]
      exact attended.quiet fun gone => by cases forwarding.symm.trans gone
  · refine ⟨scene, keeps.told.trans attended.untold, keeps.heard.trans attended.heard, ?_, ?_⟩
    · rcases leaves_of_part forwarding made with ⟨result, subscription, -, -, rfl⟩ |
        ⟨result, leaving, rfl⟩
      · rfl
      · change s.forwarder.sink.hasSender = false
        rw [attended.sender, leaving]
        rfl
    · intro here
      rcases leaves_of_part forwarding made with ⟨result, subscription, stopping, -, rfl⟩ |
        ⟨result, -, rfl⟩
      · exact attended.quiet fun gone => by cases stopping.symm.trans gone
      · exact absurd rfl here

theorem Attended.withSink (attended : Attended event s) {record : kind.Record}
    {sink : Channel kind.Record} (popped : s.forwarder.sink.pop? = some (record, sink)) :
    Attended event (s.withSink sink) := by
  obtain ⟨-, shape⟩ := Channel.pop?_eq_some_iff.1 popped
  have heard : sink.hasReceiver = s.forwarder.sink.hasReceiver := by rw [shape]
  have sender : sink.hasSender = s.forwarder.sink.hasSender := by rw [shape]
  exact ⟨attended.scene.withSink heard.trans, attended.untold, heard.trans attended.heard,
    sender.trans attended.sender, attended.quiet⟩

/-- A verdict is that of a forwarder that is gone, and is its result. -/
theorem Attended.verdict (attended : Attended event s) {failure : Option ContractError}
    {handle : Subscription} (verdict : s.forwarder.handle.verdict? = some (failure, handle)) :
    s.forwarder.stage = .gone ∧ handle.isRunning = false ∧
      ∃ result, s.result = some result ∧ Feed.failureOf result = failure := by
  have shown := attended.scene.shown
  have standing := attended.scene.standing
  have running := Subscription.isRunning_of_verdict verdict
  have away {P : Prop} (going : s.forwarder.handle.isRunning = true)
      (here : s.forwarder.stage ≠ .gone) : P := by
    have silent := Subscription.verdict?_eq_none_iff.2 ⟨attended.quiet here, going⟩
    cases silent.symm.trans verdict
  cases stage : s.forwarder.stage with
  | forwarding =>
    rw [stage] at shown
    exact away shown fun gone => nomatch stage.symm.trans gone
  | stopping result =>
    rw [stage] at shown
    exact away shown fun gone => nomatch stage.symm.trans gone
  | leaving result =>
    rw [stage] at shown
    exact away shown fun gone => nomatch stage.symm.trans gone
  | gone =>
    rw [stage] at shown standing
    obtain ⟨stopped, failed⟩ := shown
    obtain ⟨result, settled⟩ := standing
    rw [settled.decided, Option.bind_some] at failed
    refine ⟨rfl, running.trans stopped, result, settled.decided, failed.trans ?_⟩
    unfold Subscription.verdict? at verdict
    split at verdict
    · rename_i e reported
      cases verdict
      exact reported
    · rename_i reported
      split at verdict
      · cases verdict
      · cases verdict
        exact reported

end Attended

end Forwarder

end NameRights
