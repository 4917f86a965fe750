/- NameRights/Proofs/Node/LineCourse
   digest: A line in the course of time is a poller in the course of its acts. -/

import NameRights.Node.Timeline
import NameRights.Proofs.Node.PollingCourse

set_option autoImplicit false
set_option relaxedAutoImplicit false

namespace NameRights.Poller.Scene

variable {kind : EventKind} {s : Scene kind} {before : List Request} {clock : Clock}
  {line : Line kind}

/-- A scene of the poller and the tap of a line, which has sent the last of the requests. -/
structure Shows (s : Scene kind) (before : List Request) (clock : Clock) (line : Line kind) :
    Prop where
  poller : line.poller = s.poller
  tap : line.tap = s.tap
  asked : clock.asked = before ++ s.asked

/-- Some acts lead to a line. -/
private def Leads (s : Scene kind) (before : List Request) (clock : Clock) (line : Line kind) :
    Prop :=
  ∃ acts : List Act, (s.run acts).Shows before clock line

private theorem Leads.then {clock' : Clock} {line' : Line kind} (leads : s.Leads before clock line)
    (next : ∀ t : Scene kind, t.Shows before clock line → t.Leads before clock' line') :
    s.Leads before clock' line' := by
  obtain ⟨acts, shown⟩ := leads
  obtain ⟨more, shown'⟩ := next _ shown
  refine ⟨acts ++ more, ?_⟩
  rw [run, List.foldl_append]
  exact shown'

private theorem leads_of_step (act : Act) (shown : (s.step act).Shows before clock line) :
    s.Leads before clock line :=
  ⟨[act], shown⟩

private theorem asked_ask (request : Request) (clock : Clock) :
    (clock.ask request).2.asked = clock.asked ++ [request] := by
  unfold Clock.ask
  simp only
  split <;> rfl

private theorem Shows.step (shown : s.Shows before clock line) {next : Clock × Line kind}
    (made : Line.step? (clock, line) = some next) : s.Leads before next.1 next.2 := by
  obtain ⟨poller, tap, asked⟩ := shown
  unfold Line.step? at made
  simp only [poller, tap] at made
  cases stepped : s.poller.step? s.tap.feed with
  | some entry =>
    obtain ⟨request, poller', feed⟩ := entry
    rw [stepped] at made
    cases request with
    | none =>
      cases made
      refine leads_of_step .step ?_
      simp only [Scene.step, stepped, Option.toList_none, List.append_nil]
      exact ⟨rfl, rfl, asked⟩
    | some request =>
      cases made
      refine leads_of_step .step ?_
      simp only [Scene.step, stepped, Option.toList_some]
      refine ⟨rfl, rfl, ?_⟩
      rw [asked_ask, asked, List.append_assoc]
  | none =>
    rw [stepped] at made
    obtain ⟨tap', forwarded, made⟩ := Option.map_eq_some_iff.1 made
    cases made
    refine leads_of_step (.turn .forward) ?_
    simp only [Scene.step, Tap.turn?, forwarded]
    exact ⟨rfl, rfl, asked⟩

private theorem Shows.settle (shown : s.Shows before clock line) (fuel : Nat) :
    s.Leads before (NameRights.settle Line.step? fuel (clock, line)).1
      (NameRights.settle Line.step? fuel (clock, line)).2 := by
  induction fuel generalizing s clock line with
  | zero => exact ⟨[], shown⟩
  | succ fuel ih =>
    unfold NameRights.settle
    cases made : Line.step? (clock, line) with
    | none => exact ⟨[], shown⟩
    | some next => exact (shown.step made).then fun t shown => ih shown

private theorem shows_hear (shown : s.Shows before clock line) (reply : Reply)
    (alarm : Option (Nat × Stimulus)) :
    (s.step (.hear reply)).Shows before clock
      { line with poller := (line.poller.hear reply line.tap.feed).1
                  tap := line.tap.withFeed (line.poller.hear reply line.tap.feed).2
                  alarm } := by
  obtain ⟨poller, tap, asked⟩ := shown
  rw [poller, tap]
  simp only [Scene.step]
  split <;> exact ⟨rfl, rfl, asked⟩

/-- What happens to a line when it is due is what the poller does when its rest is over or its
request is answered. -/
private theorem Shows.stir (shown : s.Shows before clock line) :
    s.Leads before (line.stir clock).1 (line.stir clock).2 := by
  unfold Line.stir
  cases line.alarm with
  | none => exact ⟨[], shown⟩
  | some alarm =>
    obtain ⟨due, stimulus⟩ := alarm
    simp only
    split
    · exact ⟨[], shown⟩
    · cases stimulus with
      | reply reply =>
        have heard := leads_of_step (.hear reply) (shows_hear shown reply none)
        exact heard.then fun t shown => shown.settle _
      | wake =>
        cases woken : line.poller.wake? with
        | none => exact ⟨[], shown.poller, shown.tap, shown.asked⟩
        | some entry =>
          obtain ⟨request, poller⟩ := entry
          refine Leads.then (leads_of_step .wake ?_) fun t shown => shown.settle _
          rw [shown.poller] at woken
          simp only [Scene.step, woken]
          refine ⟨rfl, shown.tap, ?_⟩
          rw [asked_ask, shown.asked, List.append_assoc]

private def Looks {α : Type} (look : Tap kind → Option (α × Tap kind)) : Prop :=
  ∀ tap a after, look tap = some (a, after) → ∃ turn, tap.turn? turn = some after

private theorem Leads.turn (leads : s.Leads before clock line) (turn : Tap.Turn) {tap : Tap kind}
    (made : line.tap.turn? turn = some tap) : s.Leads before clock { line with tap } := by
  refine leads.then fun t shown => leads_of_step (.turn turn) ?_
  rw [shown.tap] at made
  simp only [Scene.step, made]
  exact ⟨shown.poller, rfl, shown.asked⟩

private theorem Leads.awaitAlone {α : Type} {look : Tap kind → Option (α × Tap kind)}
    (looks : Looks look) {lookAlone : Timeline kind → Option (α × Timeline kind)}
    (alone : ∀ clock line, lookAlone ⟨clock, [line]⟩ =
      (look line.tap).map fun (a, tap) => (a, ⟨clock, [{ line with tap }]⟩))
    (leads : s.Leads before clock line) (fuel : Nat) :
    ∃ clock' line', (Timeline.await lookAlone fuel ⟨clock, [line]⟩).2 = ⟨clock', [line']⟩ ∧
      s.Leads before clock' line' := by
  induction fuel generalizing clock line with
  | zero => exact ⟨clock, line, rfl, leads⟩
  | succ fuel ih =>
    unfold Timeline.await
    cases seen : look line.tap with
    | some entry =>
      obtain ⟨a, tap⟩ := entry
      simp only [alone, seen, Option.map_some]
      obtain ⟨turn, made⟩ := looks _ _ _ seen
      exact ⟨clock, _, rfl, leads.turn turn made⟩
    | none =>
      simp only [alone, seen, Option.map_none]
      cases next : (Timeline.dues ⟨clock, [line]⟩).min? with
      | none =>
        simp only [Timeline.advance?, next, Option.map_none]
        exact ⟨clock, line, rfl, leads⟩
      | some due =>
        simp only [Timeline.advance?, next, Option.map_some, Timeline.each]
        refine ih (leads.then fun t shown => ?_)
        have later : t.Shows before { clock with now := max clock.now due } line :=
          ⟨shown.poller, shown.tap, shown.asked⟩
        exact later.stir

private theorem Leads.awaitHead {α : Type} {look : Tap kind → Option (α × Tap kind)}
    (looks : Looks look) {lookAlone : Timeline kind → Option (α × Timeline kind)}
    (leads : s.Leads before clock line) (fuel : Nat)
    (alone : ∀ clock line, lookAlone ⟨clock, [line]⟩ =
      (look line.tap).map fun (a, tap) => (a, ⟨clock, [{ line with tap }]⟩)) :
    s.Leads before (Timeline.await lookAlone fuel ⟨clock, [line]⟩).2.clock
      ((Timeline.await lookAlone fuel ⟨clock, [line]⟩).2.lines.headD line) := by
  obtain ⟨clock', line', same, leads'⟩ := leads.awaitAlone looks alone fuel
  rw [same]
  exact leads'

private theorem Leads.await {α : Type} {look : Tap kind → Option (α × Tap kind)}
    (looks : Looks look)
    {r : Line.Rehearsal kind} (leads : s.Leads before r.clock r.line) :
    s.Leads before (r.await look).2.clock (r.await look).2.line := by
  unfold Line.Rehearsal.await
  exact leads.awaitHead looks _ fun _ _ => rfl

private theorem Leads.settle {r : Line.Rehearsal kind} (leads : s.Leads before r.clock r.line) :
    s.Leads before r.settle.clock r.settle.line :=
  leads.then fun _ shown => shown.settle _

private theorem looks_receive : Looks (Tap.receive? : Tap kind → _) := by
  intro tap item after received
  exact ⟨.receive, congrArg (Option.map Prod.snd) received⟩

private theorem looks_verdict : Looks (Tap.verdict? : Tap kind → _) := by
  intro tap verdict after given
  exact ⟨.verdict, congrArg (Option.map Prod.snd) given⟩

private theorem looks_join :
    Looks fun tap : Tap kind => tap.join?.map fun tap => ((), tap) := by
  intro tap u after joined
  obtain ⟨tap', joined, same⟩ := Option.map_eq_some_iff.1 joined
  cases same
  exact ⟨.join, joined⟩

private theorem Leads.perform {r : Line.Rehearsal kind} (leads : s.Leads before r.clock r.line)
    (move : Tap.Move) : s.Leads before (r.perform move).2.clock (r.perform move).2.line := by
  cases move with
  | receive => exact leads.await looks_receive
  | verdict =>
    unfold Line.Rehearsal.perform
    simp only
    split
    · exact leads
    · exact leads.await looks_verdict
  | unsubscribe =>
    have told : s.Leads before r.clock { r.line with tap := r.line.tap.tell } :=
      leads.turn .tell rfl
    exact (Leads.settle (r := { r with line := { r.line with tap := r.line.tap.tell } }) told).await
      looks_join
  | dropHandle => exact leads.turn .tell rfl
  | dropReceiver => exact leads.turn .dropReceiver rfl

private theorem Leads.run {r : Line.Rehearsal kind} (leads : s.Leads before r.clock r.line)
    (moves : List Tap.Move) : s.Leads before (r.run moves).2.clock (r.run moves).2.line := by
  induction moves generalizing r with
  | nil => exact leads
  | cons move moves ih => exact ih (leads.perform move).settle

/-- All that a line does for its consumer, from the moment its filter is installed and whatever
answers are prepared, is a course of acts of its poller and its tap. -/
theorem exists_run_of_rehearsal (filter : String) (interval capacity : Nat)
    (sink : Option (Abi.Event × Nat)) (clock : Clock) (isHeld : Bool) (moves : List Tap.Move) :
    ∃ acts, let s : Scene kind := (start filter capacity sink).run acts
      let r : Line.Rehearsal kind :=
        ⟨clock, .start filter interval (.start (.started capacity) sink) clock, isHeld⟩
      s.Shows clock.asked (r.run moves).2.clock (r.run moves).2.line := by
  apply Leads.run
  exact ⟨[], rfl, rfl, (List.append_nil _).symm⟩

end NameRights.Poller.Scene
