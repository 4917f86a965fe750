/- NameRights/Proofs/Feed/ReplayCourse
   digest: What is read of a batch of logs that a task copies into a feed while the reader may close. -/

import NameRights.Proofs.Event.Records
import NameRights.Proofs.Feed.CallAnswers

set_option autoImplicit false
set_option relaxedAutoImplicit false

namespace NameRights.Cursor

variable {kind : EventKind}

/-- A batch of logs that a task copies into a feed, and the reader of the feed. The task looks
whether it is told to quit before it sends the next log. Told so, it gives up the rest. -/
structure Replay (kind : EventKind) where
  scene : Call.Scene kind
  rest : List Log
  isCleared : Bool

namespace Replay

/-- The task looks whether it is told to quit, or sends the next log or ends; or the reader moves. -/
inductive Act where
  | look
  | send
  | move (move : Call.Move)

def start (event : Abi.Event) (logs : List Log) : Replay kind :=
  ⟨.start event (max logs.length 1), logs, false⟩

def feed (r : Replay kind) : Feed := r.scene.cursor.feed

/-- The logs that the task has copied into the feed. -/
def copied (r : Replay kind) : List Log := r.scene.ledger.accepted

def isTold (r : Replay kind) : Bool := r.feed.subscription.isTold

def step (r : Replay kind) : Act → Replay kind
  | .look => if r.isTold then { r with rest := [] } else { r with isCleared := true }
  | .send =>
    if r.rest ≠ [] ∧ r.isCleared = false then r
    else match r.feed.supply? r.rest with
    | none => r
    | some (act, rest) => ⟨r.scene.step (.outside act), rest, false⟩
  | .move move => { r with scene := r.scene.make move }

def run (r : Replay kind) (acts : List Act) : Replay kind := acts.foldl step r

variable {event : Abi.Event} {logs rest : List Log} {r : Replay kind} {act : Feed.Act}

private theorem send_of_supply (ready : r.rest ≠ [] → r.isCleared = true)
    (supplied : r.feed.supply? r.rest = some (act, rest)) :
    r.step .send = ⟨r.scene.step (.outside act), rest, false⟩ := by
  have unready : ¬ (r.rest ≠ [] ∧ r.isCleared = false) := by
    rintro ⟨more, uncleared⟩
    cases uncleared.symm.trans (ready more)
  simp only [step, if_neg unready, supplied]

private theorem send_cases (r : Replay kind) : r.step .send = r ∨
    ∃ act rest, r.feed.supply? r.rest = some (act, rest) ∧ (r.rest ≠ [] → r.isCleared = true) ∧
      r.step .send = ⟨r.scene.step (.outside act), rest, false⟩ := by
  by_cases unready : r.rest ≠ [] ∧ r.isCleared = false
  · left
    simp only [step, if_pos unready]
  · have ready : r.rest ≠ [] → r.isCleared = true := by
      intro more
      simpa [more] using unready
    cases supplied : r.feed.supply? r.rest with
    | none =>
      left
      simp only [step, if_neg unready, supplied]
    | some result =>
      obtain ⟨act, rest⟩ := result
      exact Or.inr ⟨act, rest, rfl, ready, send_of_supply ready supplied⟩

private theorem run_send_send (none : r.rest = []) (open_ : r.feed.logs.hasSender = true)
    (running : r.feed.subscription.isRunning = true) :
    (r.run [.send, .send]).feed = r.feed.leave (.ok ()) ∧ (r.run [.send, .send]).rest = [] := by
  have ready {q : Replay kind} (none : q.rest = []) : q.rest ≠ [] → q.isCleared = true :=
    fun more => absurd none more
  have first : r.step .send = ⟨r.scene.step (.outside .letGo), [], false⟩ := by
    apply send_of_supply (ready none)
    simp only [none, Feed.supply?, open_, if_true]
  have second : (⟨r.scene.step (.outside .letGo), [], false⟩ : Replay kind).step .send =
      ⟨(r.scene.step (.outside .letGo)).step (.outside (.exit (.ok ()))), [], false⟩ := by
    apply send_of_supply (ready rfl)
    have gone : (r.feed.enact .letGo).logs.hasSender = false := rfl
    have going : (r.feed.enact .letGo).subscription.isRunning = true := running
    change (r.feed.enact .letGo).supply? [] = _
    simp only [Feed.supply?, gone, going, Bool.false_eq_true, if_false, if_true]
  change ((r.step .send).step .send).feed = _ ∧ ((r.step .send).step .send).rest = _
  rw [first, second]
  exact ⟨rfl, rfl⟩

/-- The producer that replays logs does what the task does, with a look before each log. -/
theorem exists_acts_of_producer {after : Feed} (open_ : r.feed.logs.hasSender = true)
    (held : r.feed.logs.hasReceiver = true)
    (stepped : (Producer.replay r.rest).step? r.feed = some (.replay rest, after)) :
    ∃ acts : List Act, (∀ act ∈ acts, act = .look ∨ act = .send) ∧ (r.run acts).feed = after ∧
      (r.isTold = false → (r.run acts).rest = rest) := by
  have tasks : ∀ act ∈ [Act.look, .send, .send], act = .look ∨ act = .send := by simp
  unfold Producer.step? at stepped
  split at stepped
  · cases stepped
  · rename_i stopped
    have running : r.feed.subscription.isRunning = true := by simpa using stopped
    simp only [held, Bool.not_true, Bool.or_false] at stepped
    split at stepped
    · rename_i told
      cases stepped
      have looked : r.step .look = { r with rest := [] } := by
        simp only [step, isTold, told, if_true]
      refine ⟨[.look, .send, .send], tasks, ?_, fun untold => ?_⟩
      · change ((r.step .look).run [.send, .send]).feed = _
        rw [looked]
        exact (run_send_send (r := { r with rest := [] }) rfl open_ running).1
      · cases untold.symm.trans told
    · rename_i untold
      have looked : r.step .look = { r with isCleared := true } := by
        simp only [step, isTold, untold, Bool.false_eq_true, if_false]
      split at stepped
      · rename_i none
        cases stepped
        refine ⟨[.look, .send, .send], tasks, ?_⟩
        have ended := run_send_send (r := { r with isCleared := true }) none open_ running
        change ((r.step .look).run [.send, .send]).feed = _ ∧
          (_ → ((r.step .look).run [.send, .send]).rest = _)
        rw [looked]
        exact ⟨ended.1, fun _ => ended.2⟩
      · rename_i log others some
        split at stepped
        · rename_i room
          cases stepped
          have offered : r.feed.logs.offer log = (.accepted, r.feed.logs.push log) := by
            simp [Channel.offer, open_, held, room]
          have sent : ({ r with isCleared := true } : Replay kind).step .send =
              ⟨r.scene.step (.outside (.offer log)), rest, false⟩ := by
            apply send_of_supply fun _ => rfl
            change r.feed.supply? r.rest = _
            simp [some, Feed.supply?, offered]
          refine ⟨[.look, .send], by simp, ?_⟩
          change ((r.step .look).step .send).feed = _ ∧ (_ → ((r.step .look).step .send).rest = _)
          rw [looked, sent]
          refine ⟨?_, fun _ => rfl⟩
          change r.feed.enact (.offer log) = _
          simp only [Feed.enact, offered]
        · cases stepped

def Over (s : Call.Scene kind) : Prop :=
  s.cursor.phase = .exhausted →
    s.cursor.feed.logs.items = [] ∧ s.cursor.feed.logs.hasSender = false

/-- What holds of a batch that is copied and read. The task ends only after it has let go of the
feed, and gives up logs only when told to quit. -/
structure Holds (event : Abi.Event) (logs : List Log) (r : Replay kind) : Prop where
  sound : r.scene.Sound
  tells : r.scene.Tells event
  open_ : r.rest ≠ [] → r.feed.logs.hasSender = true
  gone : r.feed.subscription.isRunning = false → r.feed.logs.hasSender = false
  spent : Over r.scene
  kept : r.copied ++ r.rest = logs ∨ (r.isTold = true ∧ r.rest = [] ∧ r.copied <+: logs)

private theorem holds_start (event : Abi.Event) (logs : List Log) :
    (start event logs : Replay kind).Holds event logs :=
  ⟨Call.Scene.sound_start _ _, Call.Scene.tells_start _ _, fun _ => rfl,
    fun ended => (nomatch ended), fun exhausted => (nomatch exhausted), Or.inl rfl⟩

private theorem Holds.look (holds : r.Holds event logs) : (r.step .look).Holds event logs := by
  obtain ⟨sound, tells, open_, gone, spent, kept⟩ := holds
  simp only [Replay.step]
  split
  · rename_i told
    refine ⟨sound, tells, fun more => absurd rfl more, gone, spent, Or.inr ⟨told, rfl, ?_⟩⟩
    rcases kept with whole | ⟨-, -, begun⟩
    · rw [← whole]
      exact List.prefix_append _ _
    · exact begun
  · exact ⟨sound, tells, open_, gone, spent, kept⟩

private theorem Holds.send (holds : r.Holds event logs) : (r.step .send).Holds event logs := by
  rcases send_cases r with same | ⟨act, rest, supplied, -, made⟩
  · rw [same]
    exact holds
  · obtain ⟨sound, tells, open_, gone, spent, kept⟩ := holds
    have accepted : (r.scene.step (.outside act)).ledger.accepted ++ rest = r.copied ++ r.rest :=
      Feed.accepted_supply supplied open_ fun _ => tells.held
    have still : (r.scene.step (.outside act)).cursor.feed.subscription.isTold = r.isTold := by
      rcases Feed.supply?_cases supplied with ⟨_, -, rfl, -⟩ | ⟨-, -, rfl, -⟩ | ⟨-, -, rfl, -⟩
      · rfl
      · rfl
      · exact Subscription.isTold_exit _ _
    rw [made]
    refine ⟨sound.outside act, tells.outside act, Feed.sender_supply supplied open_, ?_, ?_, ?_⟩
    · intro ended
      rcases Feed.supply?_cases supplied with ⟨_, some, rfl, -⟩ | ⟨-, -, rfl, -⟩ |
        ⟨-, -, rfl, closed, -⟩
      · have sender := open_ (by rw [some]; exact List.cons_ne_nil _ _)
        cases sender.symm.trans (gone ended)
      · rfl
      · exact closed
    · intro exhausted
      obtain ⟨empty, closed⟩ := spent exhausted
      rcases Feed.supply?_cases supplied with ⟨_, some, rfl, -⟩ | ⟨-, -, rfl, -⟩ | ⟨-, -, rfl, -⟩
      · have sender := open_ (by rw [some]; exact List.cons_ne_nil _ _)
        cases sender.symm.trans closed
      · exact ⟨empty, rfl⟩
      · exact ⟨empty, closed⟩
    · rcases kept with whole | ⟨told, none, begun⟩
      · exact Or.inl (accepted.trans whole)
      · have rest_nil : rest = [] := by
          rcases Feed.supply?_cases supplied with ⟨_, some, -⟩ | ⟨-, none, -⟩ | ⟨-, none, -⟩
          · cases some.symm.trans none
          · exact none
          · exact none
        rw [none, rest_nil, List.append_nil, List.append_nil] at accepted
        refine Or.inr ⟨still.trans told, rest_nil, ?_⟩
        change (r.scene.step (.outside act)).ledger.accepted <+: logs
        rw [accepted]
        exact begun

private theorem over_goOn {s : Call.Scene kind} (sound : s.Sound)
    (gone : s.cursor.feed.subscription.isRunning = false → s.cursor.feed.logs.hasSender = false)
    (spent : Over s) : Over s.goOn := by
  cases stage : s.stage with
  | free =>
    rw [Call.Scene.goOn_of_free stage]
    exact spent
  | calling call =>
    have standing := sound.stands call stage
    rcases Call.Scene.goOn_cases stage with ⟨after, c, moves, made⟩ | ⟨answer, c, moves, made⟩
    · rw [made]
      cases moves with
      | look | wait | finish | stay => exact spent
      | heed active verdict =>
        intro exhausted
        have draining := (Call.Scene.heed_of_verdict active verdict).1
        cases draining.symm.trans exhausted
    · rw [made]
      cases moves with
      | refuse stopped => exact spent
      | fail reads items broken => exact fun exhausted => nomatch exhausted
      | read reads items decoded =>
        intro exhausted
        rcases Call.Scene.going_of_reads reads standing with phase | phase <;>
          cases phase.symm.trans exhausted
      | exhaust reads notLogs empty =>
        -- a call that finds the queue empty looks no further, since the task has ended
        have draining : s.cursor.phase = .draining := by
          cases call with
          | verdict => exact reads
          | queue => exact standing
          | logs => exact absurd rfl notLogs
          | ending => exact reads.elim
        exact fun _ => ⟨empty, gone (sound.drained draining)⟩
      | close verdict =>
        obtain ⟨-, empty, closed⟩ := standing
        have logs := (heed_frame s.cursor).logs
        intro _
        change s.cursor.heed.feed.logs.items = [] ∧ s.cursor.heed.feed.logs.hasSender = false
        rw [logs]
        exact ⟨empty, closed⟩
  | closing =>
    simp only [Call.Scene.goOn, stage]
    cases joined : s.cursor.endClose? with
    | none => exact spent
    | some c =>
      obtain ⟨subscription, -, rfl⟩ := Option.map_eq_some_iff.1 joined
      intro exhausted
      apply spent
      by_cases active : s.cursor.phase = .active
      · simp [active] at exhausted
      · simpa [active] using exhausted

private theorem over_make {s : Call.Scene kind} (sound : s.Sound)
    (gone : s.cursor.feed.subscription.isRunning = false → s.cursor.feed.logs.hasSender = false)
    (spent : Over s) (move : Call.Move) : Over (s.make move) := by
  cases move with
  | step => exact over_goOn sound gone spent
  | next | take | close =>
    simp only [Call.Scene.make]
    split
    · exact spent
    · exact spent
  | abandon =>
    simp only [Call.Scene.make]
    split
    · split
      · exact spent
      · exact spent
    · exact spent
    · exact spent

private theorem copied_move (r : Replay kind) (move : Call.Move) :
    (r.step (.move move)).copied = r.copied := by
  have ledger := (Call.Scene.frame_make r.scene move).ledger
  change (r.scene.make move).ledger.accepted = _
  rw [ledger, Feed.Ledger.accepted_watch]
  rfl

private theorem copied_step (r : Replay kind) (act : Act) : r.copied <+: (r.step act).copied := by
  cases act with
  | move move =>
    simp only [copied_move, List.prefix_rfl]
  | look =>
    simp only [step]
    split
    · exact List.prefix_rfl
    · exact List.prefix_rfl
  | send =>
    rcases send_cases r with same | ⟨act, rest, -, -, made⟩
    · simp only [same, List.prefix_rfl]
    · rw [made]
      exact Feed.Ledger.accepted_note act

private theorem copied_run (r : Replay kind) (acts : List Act) :
    r.copied <+: (r.run acts).copied := by
  induction acts generalizing r with
  | nil => exact List.prefix_rfl
  | cons act acts ih => exact (copied_step r act).trans (ih (r.step act))

private theorem Holds.move (holds : r.Holds event logs) (move : Call.Move) :
    (r.step (.move move)).Holds event logs := by
  obtain ⟨sound, tells, open_, gone, spent, kept⟩ := holds
  have frame := Call.Scene.frame_make r.scene move
  have same := copied_move r move
  refine ⟨sound.make move, tells.make sound move, ?_, ?_, over_make sound gone spent move, ?_⟩
  · intro more
    exact frame.reads.sender.trans (open_ more)
  · intro ended
    exact frame.reads.sender.trans (gone (frame.reads.running.symm.trans ended))
  · rw [same]
    rcases kept with whole | ⟨told, none, begun⟩
    · exact Or.inl whole
    · exact Or.inr ⟨frame.reads.told told, none, begun⟩

private theorem Holds.step (holds : r.Holds event logs) (act : Act) :
    (r.step act).Holds event logs := by
  cases act with
  | look => exact holds.look
  | send => exact holds.send
  | move move => exact holds.move move

private theorem Holds.run (holds : r.Holds event logs) (acts : List Act) :
    (r.run acts).Holds event logs := by
  induction acts generalizing r with
  | nil => exact holds
  | cons act acts ih => exact ih (holds.step act)

/-- The log that a task may still send once it is told to quit: one that it was cleared for. -/
def upcoming (r : Replay kind) : List Log := if r.isCleared then r.rest.take 1 else []

private theorem Holds.told_step (holds : r.Holds event logs) (told : r.isTold = true) (act : Act) :
    (r.step act).isTold = true ∧
      (r.step act).copied ++ (r.step act).upcoming <+: r.copied ++ r.upcoming := by
  cases act with
  | move move =>
    have same : (r.step (.move move)).upcoming = r.upcoming := rfl
    refine ⟨(Call.Scene.frame_make r.scene move).reads.told told, ?_⟩
    simp only [copied_move, same, List.prefix_rfl]
  | look =>
    simp only [Replay.step, told, if_true]
    refine ⟨told, ?_⟩
    have none : ({ r with rest := [] } : Replay kind).upcoming = [] := by
      unfold upcoming
      split <;> rfl
    rw [none, List.append_nil]
    exact List.prefix_append _ _
  | send =>
    rcases send_cases r with same | ⟨act, rest, supplied, ready, made⟩
    · rw [same]
      exact ⟨told, List.prefix_rfl⟩
    · have accepted : (r.scene.step (.outside act)).ledger.accepted ++ rest = r.copied ++ r.rest :=
        Feed.accepted_supply supplied holds.open_ fun _ => holds.tells.held
      rw [made]
      change (r.feed.enact act).subscription.isTold = true ∧
        (r.scene.step (.outside act)).ledger.accepted ++ [] <+: _
      rw [List.append_nil]
      rcases Feed.supply?_cases supplied with ⟨log, some, rfl, -⟩ | ⟨none, rfl, rfl, -⟩ |
        ⟨none, rfl, rfl, -⟩
      · refine ⟨told, ?_⟩
        have cleared : r.isCleared = true := ready (by rw [some]; exact List.cons_ne_nil _ _)
        have next : r.upcoming = [log] := by simp [upcoming, cleared, some]
        rw [some, ← List.singleton_append, ← List.append_assoc] at accepted
        simp only [next, List.append_cancel_right accepted, List.prefix_rfl]
      · rw [none, List.append_nil, List.append_nil] at accepted
        rw [accepted]
        exact ⟨told, List.prefix_append _ _⟩
      · rw [none, List.append_nil, List.append_nil] at accepted
        rw [accepted]
        exact ⟨(Subscription.isTold_exit _ _).trans told, List.prefix_append _ _⟩

private theorem Holds.told_run (holds : r.Holds event logs) (told : r.isTold = true)
    (acts : List Act) :
    (r.run acts).copied ++ (r.run acts).upcoming <+: r.copied ++ r.upcoming := by
  induction acts generalizing r with
  | nil => exact List.prefix_rfl
  | cons act acts ih =>
    obtain ⟨still, begun⟩ := holds.told_step told act
    exact (ih (holds.step act) still).trans begun

private theorem Holds.ended_step (holds : r.Holds event logs)
    (ended : r.feed.subscription.isRunning = false) (act : Act) :
    (r.step act).feed.subscription.isRunning = false ∧ (r.step act).copied = r.copied := by
  cases act with
  | move move =>
    have reads := (Call.Scene.frame_make r.scene move).reads
    exact ⟨reads.running.trans ended, copied_move r move⟩
  | look =>
    simp only [Replay.step]
    split
    · exact ⟨ended, rfl⟩
    · exact ⟨ended, rfl⟩
  | send =>
    have closed := holds.gone ended
    rcases send_cases r with same | ⟨act, rest, supplied, -, -⟩
    · rw [same]
      exact ⟨ended, rfl⟩
    · rcases Feed.supply?_cases supplied with ⟨_, some, -⟩ | ⟨-, -, -, open_⟩ | ⟨-, -, -, -, running⟩
      · have sender := holds.open_ (by rw [some]; exact List.cons_ne_nil _ _)
        cases sender.symm.trans closed
      · cases open_.symm.trans closed
      · cases running.symm.trans ended

private theorem Holds.ended_run (holds : r.Holds event logs)
    (ended : r.feed.subscription.isRunning = false) (acts : List Act) :
    (r.run acts).copied = r.copied := by
  induction acts generalizing r with
  | nil => rfl
  | cons act acts ih =>
    obtain ⟨still, same⟩ := holds.ended_step ended act
    exact (ih (holds.step act) still).trans same

/-- The answers so far: the records of the first logs copied, and a refusal only after the last of
these or at a log that is no record. -/
private theorem Holds.told (holds : r.Holds event logs) :
    ∃ (read : List kind.Record) (refusals : List (Bool × Option kind.Record)),
      r.scene.answers = read.map (fun r => (true, some r)) ++ refusals ∧
      (∀ a ∈ refusals, a.1 = false) ∧ read <+: (kind.readThrough event r.copied).1 ∧
      (refusals ≠ [] → (read, r.scene.cursor.failure) = kind.readThrough event r.copied) := by
  obtain ⟨-, held, fits, read, refusals, given, refused, stopped, whole⟩ := holds.tells
  have queued : r.copied = r.scene.ledger.taken ++ r.feed.logs.items := fits.queued held
  refine ⟨read, refusals, given, refused, ?_, ?_⟩
  · rw [queued]
    cases failure : r.scene.cursor.failure with
    | none =>
      rw [failure] at whole
      rw [EventKind.readThrough_onward whole]
      exact List.prefix_append _ _
    | some e =>
      rw [failure] at whole
      simp only [EventKind.readThrough_halted whole, List.prefix_rfl]
  · intro some
    cases failure : r.scene.cursor.failure with
    | some e =>
      rw [failure] at whole
      rw [queued, EventKind.readThrough_halted whole]
    | none =>
      rw [failure] at whole
      rcases stopped some with exhausted | failed
      · have empty : r.feed.logs.items = [] := (holds.spent exhausted).1
        rw [queued, empty, List.append_nil, whole]
      · exact absurd failed (holds.sound.unfailing.1 failure)

private theorem Holds.whole_of_untold (holds : r.Holds event logs) (untold : r.isTold = false)
    (stopped : Call.Scene.IsStopped r.scene.cursor) {read : List kind.Record}
    (through : (read, r.scene.cursor.failure) = kind.readThrough event r.copied) :
    (read, r.scene.cursor.failure) = kind.readThrough event logs := by
  have whole : r.copied ++ r.rest = logs := by
    rcases holds.kept with whole | ⟨told, -⟩
    · exact whole
    · cases untold.symm.trans told
  rcases stopped with exhausted | failed
  · have none : r.rest = [] := by
      by_contra more
      have closed := (holds.spent exhausted).2
      cases closed.symm.trans (holds.open_ more)
    rw [none, List.append_nil] at whole
    rw [← whole]
    exact through
  · cases failure : r.scene.cursor.failure with
    | none => exact absurd failed (holds.sound.unfailing.1 failure)
    | some e =>
      rw [failure] at through
      rw [← whole, EventKind.readThrough_halted through.symm]

private theorem Holds.copied_prefix (holds : r.Holds event logs) : r.copied <+: logs := by
  rcases holds.kept with whole | ⟨-, -, begun⟩
  · rw [← whole]
    exact List.prefix_append _ _
  · exact begun

/-- In every course of a batch that is copied and read: the records read are those of the first logs
copied, in order, and a call is refused only after the last of these or at a log that is no record.
As long as the task is not told to quit, no log is given up, so that the reader gets the records of the
whole batch. Once it is told, at most one more log is copied, which it was cleared for; and once the
call to close has returned, none is, and no call waits. -/
theorem replaying_course (event : Abi.Event) (logs : List Log) (acts : List Act) :
    let r : Replay kind := (start event logs).run acts
    (r.copied <+: logs ∧ (r.isTold = false → r.copied ++ r.rest = logs)) ∧
    (∃ (read : List kind.Record) (refusals : List (Bool × Option kind.Record)),
      r.scene.answers = read.map (fun r => (true, some r)) ++ refusals ∧
      (∀ a ∈ refusals, a.1 = false) ∧ read <+: (kind.readThrough event r.copied).1 ∧
      (refusals ≠ [] →
        (read, r.scene.cursor.failure) = kind.readThrough event r.copied ∧
        (r.isTold = false → (read, r.scene.cursor.failure) = kind.readThrough event logs))) ∧
    (r.isTold = true → ∀ more, ∃ late,
      (r.run more).copied = r.copied ++ late ∧ late <+: r.upcoming) ∧
    (r.scene.closes ≠ 0 → (r.scene.stage ≠ .free → r.scene.goOn.stage = .free) ∧
      ∀ more, (r.run more).copied = r.copied) := by
  intro r
  have holds : r.Holds event logs := (holds_start event logs).run acts
  refine ⟨⟨holds.copied_prefix, ?_⟩, ?_, ?_, ?_⟩
  · intro untold
    rcases holds.kept with whole | ⟨told, -⟩
    · exact whole
    · cases untold.symm.trans told
  · obtain ⟨read, refusals, given, refused, begun, through⟩ := holds.told
    refine ⟨read, refusals, given, refused, begun, fun some => ⟨through some, ?_⟩⟩
    intro untold
    obtain ⟨a, member⟩ := List.exists_mem_of_ne_nil refusals some
    have stopped : Call.Scene.IsStopped r.scene.cursor := by
      apply holds.sound.refused.1
      refine ⟨a, ?_, refused a member⟩
      rw [given]
      exact List.mem_append_right _ member
    exact holds.whole_of_untold untold stopped (through some)
  · intro told more
    obtain ⟨late, same⟩ : r.copied <+: (r.run more).copied := copied_run r more
    refine ⟨late, same.symm, ?_⟩
    have bound := (List.prefix_append _ _).trans (holds.told_run told more)
    rw [← same] at bound
    exact (List.prefix_append_right_inj _).1 bound
  · intro closed
    have ended := (holds.sound.closed closed).2.2.1
    have follows := Call.Scene.follows_self holds.sound closed
    exact ⟨follows.returns holds.sound, holds.ended_run ended⟩

theorem decode_aliceRegistered :
    EventKind.nameRegistered.decode EventKind.nameRegistered.declaration aliceRegistered =
      .ok ⟨1, "alice", ⟨0xaa⟩, 31536000, aliceRegistered⟩ := by
  let kind := EventKind.nameRegistered
  let alice : NameRegistered := ⟨1, "alice", ⟨0xaa⟩, 31536000, aliceRegistered⟩
  have topics : aliceRegistered.topics =
      kind.topic :: (Abi.Field.pick true kind.declaration.inputs (kind.data alice)).map Datum.topic := by
    decide +kernel
  have data : aliceRegistered.data =
      Abi.encode ((Abi.Field.pick false kind.declaration.inputs (kind.data alice)).map Datum.value) := by
    decide +kernel
  exact @EventKind.decode_coded kind alice (EventKind.short_registered (by decide)) topics data

/-- A batch of one log that decodes, where the reader closes before the task has looked for the first
time: it reads nothing. -/
theorem replaying_closed_at_once :
    let r : Replay .nameRegistered :=
      (start EventKind.nameRegistered.declaration [aliceRegistered]).run
        [.move .close, .look, .send, .send, .move .step,
         .move .next, .move .step, .move .next, .move .step]
    EventKind.nameRegistered.readThrough EventKind.nameRegistered.declaration [aliceRegistered] =
        ([⟨1, "alice", ⟨0xaa⟩, 31536000, aliceRegistered⟩], none) ∧
      r.scene.closes = 1 ∧ r.scene.stage = .free ∧ r.copied = [] ∧
      r.scene.answers = [(false, none), (false, none)] := by
  refine ⟨?_, rfl, rfl, rfl, rfl⟩
  rw [EventKind.readThrough, decode_aliceRegistered]
  rfl

end Replay

end NameRights.Cursor
