/- NameRights/Proofs/Feed/Abandonment
   digest: A call for the next record that waits has changed nothing, and can be abandoned. -/

import NameRights.Proofs.Feed.CallCourse

set_option autoImplicit false
set_option relaxedAutoImplicit false

namespace NameRights.Cursor.Call.Scene

variable {kind : EventKind} {s : Scene kind} {call : Call}

private theorem stage_of_settled (settled : s.stage = .free ∨ s.stage = .calling .queue)
    (meanwhile : List (Option Feed.Act)) :
    (s.run (meanwhile.map during)).stage = .free ∨
      (s.run (meanwhile.map during)).stage = .calling .queue := by
  induction meanwhile generalizing s with
  | nil => exact settled
  | cons act meanwhile ih =>
    apply ih
    cases act with
    | some act => exact settled
    | none =>
      rcases settled with free | queue
      · left
        simp only [during, step, make, goOn, free]
      · left
        rcases goOn_cases queue with ⟨after, c, moves, made⟩ | ⟨answer, c, moves, made⟩
        · cases moves
        · simp only [during, step, make, made, answered]

private theorem run_meanwhile (meanwhile : List (Option Feed.Act)) {after : Call}
    (calling : s.stage = .calling call)
    (stands : (s.run (meanwhile.map during)).stage = .calling after) (before : after ≠ .queue) :
    s.run (meanwhile.map during) =
      { s.run (outsideOf meanwhile) with stage := .calling after } := by
  induction meanwhile generalizing s call with
  | nil =>
    simp only [List.map_nil, run_nil] at stands
    simp only [List.map_nil, run_nil, outsideOf, List.filterMap_nil, ← stands]
  | cons act meanwhile ih =>
    cases act with
    | some act => exact ih (s := s.step (.outside act)) calling stands
    | none =>
      have settled (early : s.goOn.stage = .free ∨ s.goOn.stage = .calling .queue) : False := by
        rcases stage_of_settled early meanwhile with free | queue
        · cases stands.symm.trans free
        · cases stands.symm.trans queue
          exact before rfl
      rcases goOn_cases calling with ⟨next, c, moves, made⟩ | ⟨answer, c, moves, made⟩
      · -- only a step to the queue changes the cursor
        have same : next ≠ .queue → c = s.cursor := by
          intro unsettled
          cases moves with
          | heed active verdict => exact absurd rfl unsettled
          | look | wait | finish | stay => rfl
        have unsettled : next ≠ .queue := by
          rintro rfl
          exact settled (Or.inr (by rw [made]))
        obtain rfl := same unsettled
        have moved : s.goOn = { s with stage := .calling next } := made
        change s.goOn.run _ = _
        change (s.goOn.run _).stage = _ at stands
        rw [moved] at stands ⊢
        have rest := ih rfl stands
        rw [rest, run_outside_stage]
        rfl
      · exact (settled (Or.inl (by rw [made]; rfl))).elim

/-- The second list of acts is the first without some of the calls for the next record that were
abandoned. -/
inductive Spares : Scene kind → List Act → List Act → Prop
  | nil (s : Scene kind) : Spares s [] []
  | keep {s : Scene kind} {act : Act} {longer shorter : List Act}
      (rest : Spares (s.step act) longer shorter) : Spares s (act :: longer) (act :: shorter)
  | spare {s : Scene kind} {meanwhile : List (Option Feed.Act)} {call : Call}
      {longer shorter : List Act} (free : s.stage = .free)
      (pending : (s.run (.move .next :: meanwhile.map during)).stage = .calling call)
      (waiting : call.isWaiting = true)
      (rest : Spares (s.run (outsideOf meanwhile)) longer shorter) :
      Spares s (.move .next :: (meanwhile.map during ++ .move .abandon :: longer))
        (outsideOf meanwhile ++ shorter)

private theorem run_next_meanwhile {meanwhile : List (Option Feed.Act)} (free : s.stage = .free)
    (pending : (s.run (.move .next :: meanwhile.map during)).stage = .calling call)
    (waiting : call.isWaiting = true) :
    s.run (.move .next :: meanwhile.map during) =
      { s.run (outsideOf meanwhile) with stage := .calling call } := by
  have begun : s.step (.move .next) = { s with stage := .calling .verdict } := by
    simp only [step, make, if_pos free]
  have before : call ≠ .queue := by
    rintro rfl
    cases waiting
  rw [run_cons, begun] at pending ⊢
  rw [run_meanwhile meanwhile rfl pending before, run_outside_stage]

private theorem run_abandon {meanwhile : List (Option Feed.Act)} (free : s.stage = .free)
    (pending : (s.run (.move .next :: meanwhile.map during)).stage = .calling call)
    (waiting : call.isWaiting = true) :
    (s.run (.move .next :: meanwhile.map during)).step (.move .abandon) =
      s.run (outsideOf meanwhile) := by
  have still := (stage_outside meanwhile s).trans free
  rw [run_next_meanwhile free pending waiting]
  simp only [step, make, waiting, if_true]
  rw [← still]

private theorem Spares.run_eq {longer shorter : List Act} (spares : s.Spares longer shorter) :
    s.run longer = s.run shorter := by
  induction spares with
  | nil s => rfl
  | keep rest ih => exact ih
  | spare free pending waiting rest ih =>
    have spared := run_abandon free pending waiting
    rw [← List.cons_append, run_append, run_append, run_cons, spared, ih]

/-- The call that the reader is in goes on for three steps that nothing disturbs. -/
def alone (s : Scene kind) : Scene kind := s.run (List.replicate 3 (.move .step))

private theorem alone_eq (s : Scene kind) : s.alone = s.goOn.goOn.goOn := rfl

private theorem alone_of_goOn (free : s.goOn.stage = .free) : s.alone = s.goOn := by
  rw [alone_eq, goOn_of_free free, goOn_of_free free]

private theorem alone_of_goOn_goOn (free : s.goOn.goOn.stage = .free) : s.alone = s.goOn.goOn := by
  rw [alone_eq, goOn_of_free free]

private theorem heed_of_unheard {c : Cursor kind} (none : c.feed.subscription.verdict? = none) :
    c.heed = c := by
  unfold heed
  split
  · rw [none]
  · rfl
  · rfl
  · rfl

private theorem heed_of_phase {c : Cursor kind} (going : c.phase ≠ .active) : c.heed = c := by
  rcases heed_cases c with same | ⟨active, -⟩
  · exact same
  · exact absurd active going

private theorem next?_eq_none_iff {c : Cursor kind} :
    c.next? = none ↔
      c.phase = .active ∧ c.feed.subscription.verdict? = none ∧ c.feed.logs.items = [] := by
  unfold next?
  constructor
  · intro open_
    have active : c.heed.phase = .active := by
      cases phase : c.heed.phase with
      | active => rfl
      | draining | exhausted | failed => simp [attempt?, phase] at open_
    have was : c.phase = .active := by
      rcases heed_cases c with same | ⟨was, -⟩
      · rw [same] at active
        exact active
      · exact was
    have none : c.feed.subscription.verdict? = none := by
      cases verdict : c.feed.subscription.verdict? with
      | none => rfl
      | some entry =>
        have draining := (heed_of_verdict was (by rw [verdict]; rfl)).1
        cases active.symm.trans draining
    rw [heed_of_unheard none] at open_
    simp only [attempt?, was] at open_
    exact ⟨was, none, items_of_readQueued open_⟩
  · rintro ⟨active, none, empty⟩
    rw [heed_of_unheard none]
    simp [attempt?, active, readQueued?, Channel.pop?_eq_none_iff.2 empty]

private theorem alone_of_begun (calling : s.stage = .calling .verdict) {answer : Bool}
    {c : Cursor kind}
    (found : s.cursor.next? = some (answer, c)) : s.alone = s.answered answer c := by
  unfold next? at found
  by_cases active : s.cursor.phase = .active
  · cases verdict : s.cursor.feed.subscription.verdict? with
    | some entry =>
      have given : s.cursor.feed.subscription.verdict?.isSome := by rw [verdict]; rfl
      have draining := (heed_of_verdict active given).1
      have heeded : s.goOn = { s with cursor := s.cursor.heed, stage := .calling .queue } :=
        goOn_of_stands calling (by simp only [Call.step, active, given, if_true])
      simp only [attempt?, draining, Option.some.injEq] at found
      have drained : s.goOn.goOn =
          { s with cursor := s.cursor.heed, stage := .calling .queue }.answered answer c := by
        rw [heeded]
        exact goOn_of_returns rfl (by simp only [Call.step, found])
      rw [alone_of_goOn_goOn (by rw [drained]; rfl), drained]
      simp only [answered, (heed_frame s.cursor).logs]
    | none =>
      have looked : s.goOn = { s with stage := .calling .logs } :=
        goOn_of_stands calling (by simp [Call.step, active, verdict])
      rw [heed_of_unheard verdict] at found
      simp only [attempt?, active] at found
      have read : s.goOn.goOn = { s with stage := .calling .logs }.answered answer c := by
        rw [looked]
        exact goOn_of_returns rfl (by simp only [Call.step, found])
      rw [alone_of_goOn_goOn (by rw [read]; rfl), read]
      rfl
  · rw [heed_of_phase active] at found
    have read : s.goOn = s.answered answer c := by
      apply goOn_of_returns calling
      cases phase : s.cursor.phase with
      | active => exact absurd phase active
      | draining =>
        simp only [attempt?, phase, Option.some.injEq] at found
        simp only [Call.step, phase, found]
      | exhausted | failed =>
        simp only [attempt?, phase, Option.some.injEq] at found
        obtain ⟨rfl, rfl⟩ := Prod.mk.inj found
        simp only [Call.step, phase]
    rw [alone_of_goOn (by rw [read]; rfl), read]

private theorem alone_of_ending (calling : s.stage = .calling .ending)
    (stands : Stands s.cursor .ending) {answer : Bool} {c : Cursor kind}
    (found : s.cursor.next? = some (answer, c)) : s.alone = s.answered answer c := by
  obtain ⟨active, empty, -⟩ := stands
  unfold next? at found
  cases verdict : s.cursor.feed.subscription.verdict? with
  | none =>
    rw [heed_of_unheard verdict] at found
    simp [attempt?, active, readQueued?, Channel.pop?_eq_none_iff.2 empty] at found
  | some entry =>
    have given : s.cursor.feed.subscription.verdict?.isSome := by rw [verdict]; rfl
    have draining := (heed_of_verdict active given).1
    have dry : s.cursor.heed.readQueued? = none := by
      have logs := (heed_frame s.cursor).logs
      simp [readQueued?, logs, Channel.pop?_eq_none_iff.2 empty]
    simp only [attempt?, draining, drain, dry, Option.getD_none, Option.some.injEq] at found
    obtain ⟨rfl, rfl⟩ := Prod.mk.inj found
    have read : s.goOn = s.answered false { s.cursor.heed with phase := .exhausted } :=
      goOn_of_returns calling (by simp only [Call.step, given, if_true])
    rw [alone_of_goOn (by rw [read]; rfl), read]

private theorem alone_of_next (calling : s.stage = .calling call) (waiting : call.isWaiting = true)
    (stands : Stands s.cursor call) {answer : Bool} {c : Cursor kind}
    (found : s.cursor.next? = some (answer, c)) : s.alone = s.answered answer c := by
  cases call with
  | verdict => exact alone_of_begun calling found
  | ending => exact alone_of_ending calling stands found
  | logs | queue => cases waiting

/-- Where a call goes on to as long as it is open whether there is a next record. -/
private def onward (c : Cursor kind) : Call → Call
  | .verdict => .logs
  | .logs => if c.feed.logs.hasSender then .verdict else .ending
  | .queue | .ending => .ending

private theorem goOn_of_open (calling : s.stage = .calling call) (stands : Stands s.cursor call)
    (open_ : s.cursor.next? = none) :
    s.goOn = { s with stage := .calling (onward s.cursor call) } ∧
      Stands s.cursor (onward s.cursor call) := by
  obtain ⟨active, none, empty⟩ := next?_eq_none_iff.1 open_
  cases call with
  | verdict => exact ⟨goOn_of_stands calling (by simp [Call.step, active, none, onward]), active⟩
  | logs =>
    refine ⟨goOn_of_stands calling ?_, ?_⟩
    · simp [Call.step, readQueued?, Channel.pop?_eq_none_iff.2 empty, onward]
    · cases held : s.cursor.feed.logs.hasSender with
      | true =>
        simp only [onward, held, if_true]
        trivial
      | false =>
        simp only [onward, held, Bool.false_eq_true, if_false]
        exact ⟨active, empty, held⟩
  | queue => cases active.symm.trans stands
  | ending => exact ⟨goOn_of_stands calling (by simp [Call.step, none, onward]), stands⟩

private theorem alone_of_open (calling : s.stage = .calling call) (waiting : call.isWaiting = true)
    (stands : Stands s.cursor call) (open_ : s.cursor.next? = none) :
    s.alone =
      { s with stage := .calling (if s.cursor.feed.logs.hasSender then .logs else .ending) } := by
  let go := onward s.cursor
  have thrice : s.alone = { s with stage := .calling (go (go (go call))) } := by
    obtain ⟨first, stands⟩ := goOn_of_open calling stands open_
    obtain ⟨second, stands⟩ :=
      goOn_of_open (s := { s with stage := .calling (go call) }) rfl stands open_
    obtain ⟨third, -⟩ :=
      goOn_of_open (s := { s with stage := .calling (go (go call)) }) rfl stands open_
    rw [alone_eq, first, second, third]
  rw [thrice]
  cases call with
  | logs | queue => cases waiting
  | ending => simp only [go, onward, stands.2.2, Bool.false_eq_true, if_false]
  | verdict => cases held : s.cursor.feed.logs.hasSender <;> simp [go, onward, held]

/-- The call that the reader is in does not return however often it goes on, unless something
happens outside. -/
def Hangs (s : Scene kind) : Prop :=
  ∀ n, (s.run (List.replicate n (.move .step))).stage ≠ .free

private theorem hangs_of_open (calling : s.stage = .calling call) (stands : Stands s.cursor call)
    (open_ : s.cursor.next? = none) : s.Hangs := by
  intro n
  induction n generalizing s call with
  | zero =>
    rw [List.replicate_zero, run_nil, calling]
    exact Stage.noConfusion
  | succ n ih =>
    obtain ⟨moved, stands⟩ := goOn_of_open calling stands open_
    rw [List.replicate_succ, run_cons]
    change (s.goOn.run _).stage ≠ _
    rw [moved]
    exact ih rfl stands open_

/-- A call that waits returns within three steps, and every call is at one that waits or has
returned after one more. -/
private theorem open_of_hangs (sound : s.Sound) (calling : s.stage = .calling call)
    (hangs : s.Hangs) :
    s.cursor.next? = none := by
  have waits (s : Scene kind) (call : Call) (calling : s.stage = .calling call)
      (waiting : call.isWaiting = true) (stands : Stands s.cursor call) (hangs : s.Hangs) :
      s.cursor.next? = none := by
    cases found : s.cursor.next? with
    | none => rfl
    | some result =>
      have returned := alone_of_next calling waiting stands found
      exact absurd (congrArg Scene.stage returned) (hangs 3)
  have later : s.goOn.Hangs := fun n => hangs (n + 1)
  cases waiting : call.isWaiting with
  | true => exact waits s call calling waiting (sound.stands call calling) hangs
  | false =>
    rcases goOn_cases calling with ⟨after, c, moves, made⟩ | ⟨answer, c, moves, made⟩
    · have stands := (sound.goOn.stands after (by rw [made]))
      rw [made] at later stands
      cases moves with
      | heed | look | stay => cases waiting
      | wait => exact waits { s with stage := .calling .verdict } _ rfl rfl stands later
      | finish => exact waits { s with stage := .calling .ending } _ rfl rfl stands later
    · have returned := congrArg Scene.stage made
      exact absurd returned (later 0)

/-- A call is left to wait only while the cursor is open: not closed, no call refused, nothing
queued, and the producer at work. -/
private theorem Sound.hangs_iff (sound : s.Sound) (calling : s.stage = .calling call) :
    s.Hangs ↔ s.closes = 0 ∧ (∀ a ∈ s.answers, a.1 = true) ∧ s.cursor.feed.logs.items = [] ∧
      s.cursor.feed.subscription.isRunning = true := by
  constructor
  · intro hangs
    obtain ⟨active, none, empty⟩ := next?_eq_none_iff.1 (open_of_hangs sound calling hangs)
    refine ⟨?_, ?_, empty, (Subscription.verdict?_eq_none_iff.1 none).2⟩
    · exact Classical.byContradiction fun some => (sound.closed some).1 active
    · intro a member
      cases answer : a.1 with
      | true => rfl
      | false =>
        have stopped := sound.refused.1 ⟨a, member, answer⟩
        simp [active] at stopped
  · rintro ⟨-, given, empty, running⟩
    have none := Subscription.verdict?_eq_none_iff.2 ⟨sound.quiet running, running⟩
    have active : s.cursor.phase = .active := by
      have going : ¬ (s.cursor.phase = .exhausted ∨ s.cursor.phase = .failed) := by
        intro stopped
        obtain ⟨a, member, no⟩ := sound.refused.2 stopped
        cases no.symm.trans (given a member)
      cases phase : s.cursor.phase with
      | active => rfl
      | draining => cases running.symm.trans (sound.drained phase)
      | exhausted => exact absurd (Or.inl phase) going
      | failed => exact absurd (Or.inr phase) going
    exact hangs_of_open calling (sound.stands call calling)
      (next?_eq_none_iff.2 ⟨active, none, empty⟩)

private theorem Sound.alone_again (sound : s.Sound) (calling : s.stage = .calling call)
    (waiting : call.isWaiting = true) :
    (s.run [.move .abandon, .move .next]).alone = s.alone := by
  have again : s.run [.move .abandon, .move .next] = { s with stage := .calling .verdict } := by
    have freed : s.step (.move .abandon) = { s with stage := .free } := by
      simp only [Scene.step, Scene.make, calling, waiting, if_true]
    rw [run_cons, freed]
    rfl
  rw [again]
  have stands := sound.stands call calling
  cases found : s.cursor.next? with
  | none =>
    rw [alone_of_open calling waiting stands found]
    exact alone_of_open (s := { s with stage := .calling .verdict }) rfl rfl trivial found
  | some result =>
    rw [alone_of_next calling waiting stands found]
    exact alone_of_begun (s := { s with stage := .calling .verdict }) rfl found

private theorem next_alone (free : s.stage = .free) :
    (∀ answer c, s.cursor.next? = some (answer, c) →
      (s.run [.move .next]).alone = s.answered answer c) ∧
    (s.cursor.next? = none → (s.run [.move .next]).Hangs) := by
  have begun : s.run [.move .next] = { s with stage := .calling .verdict } := by
    rw [run_cons, run_nil]
    simp only [step, make, if_pos free]
  rw [begun]
  constructor
  · intro answer c found
    exact alone_of_begun (s := { s with stage := .calling .verdict }) rfl found
  · intro open_
    exact hangs_of_open (s := { s with stage := .calling .verdict }) rfl trivial open_

/-- In every course of a feed and its reader: a call for the next record that nothing disturbs comes
to what the cursor comes to. A call that waits has changed nothing, whatever happens outside
meanwhile; it can be left to wait only while no call to close has returned, no call was refused, no
log is queued and the producer is at work; and to abandon it and call again comes to the same as to
go on with it. So a course with abandoned calls comes to the same as one without them. -/
theorem abandoning_course (event : Abi.Event) (capacity : Nat) (acts : List Act) :
    let s : Scene kind := (start event capacity).run acts
    (s.stage = .free → (∀ answer c, s.cursor.next? = some (answer, c) →
      (s.run [.move .next]).alone = s.answered answer c) ∧
      (s.cursor.next? = none → (s.run [.move .next]).Hangs)) ∧
    (∀ (meanwhile : List (Option Feed.Act)) (call : Call), s.stage = .free →
      (s.run (.move .next :: meanwhile.map during)).stage = .calling call →
      call.isWaiting = true →
      let idle := s.run (outsideOf meanwhile)
      s.run (.move .next :: meanwhile.map during) = { idle with stage := .calling call } ∧
      idle.cursor = { s.cursor with feed := idle.cursor.feed } ∧
      idle.ledger.taken = s.ledger.taken ∧ idle.answers = s.answers) ∧
    (∀ call, s.stage = .calling call →
      (s.Hangs ↔ s.closes = 0 ∧ (∀ a ∈ s.answers, a.1 = true) ∧ s.cursor.feed.logs.items = [] ∧
        s.cursor.feed.subscription.isRunning = true)) ∧
    (∀ call, s.stage = .calling call → call.isWaiting = true →
      (s.run [.move .abandon, .move .next]).alone = s.alone) ∧
    (∀ longer shorter, s.Spares longer shorter → s.run longer = s.run shorter) := by
  intro s
  have sound : s.Sound := (sound_start event capacity).run acts
  refine ⟨next_alone, ?_, fun call => sound.hangs_iff, fun call => sound.alone_again,
    fun _ _ => Spares.run_eq⟩
  intro meanwhile call free pending waiting idle
  obtain ⟨cursor, taken, answers, -⟩ := outside_frame meanwhile s
  exact ⟨run_next_meanwhile free pending waiting, cursor, taken, answers⟩

end NameRights.Cursor.Call.Scene
