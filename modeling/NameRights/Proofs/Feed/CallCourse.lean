/- NameRights/Proofs/Feed/CallCourse
   digest: The calls of a feed's reader, step by step, and what holds of a cursor in use. -/

import NameRights.Proofs.Feed.Delivery
import NameRights.Proofs.Feed.HandleCourse
import NameRights.Proofs.Feed.Reading

set_option autoImplicit false
set_option relaxedAutoImplicit false

namespace NameRights.Cursor

variable {kind : EventKind}

/-- All that looking at the verdict leaves alone. -/
structure Heeds (c d : Cursor kind) : Prop where
  event : d.event = c.event
  logs : d.feed.logs = c.feed.logs
  current : d.current = c.current
  failure : d.failure = c.failure
  reads : c.feed.Reads d.feed

theorem heed_frame (c : Cursor kind) : c.Heeds c.heed := by
  have same : c.Heeds c := ⟨rfl, rfl, rfl, rfl, Feed.Reads.refl _⟩
  unfold heed
  split
  · split
    · rename_i failure subscription verdict
      exact ⟨rfl, rfl, rfl, rfl, Feed.reads_verdict verdict⟩
    · exact same
  · exact same
  · exact same
  · exact same

/-- Where a call for the next record stands. It looks at the verdict and then at the queued logs, in
turn. Once there is a verdict, only the queue is left to look at; once no log will come, only the
verdict. -/
inductive Call where
  | verdict
  | logs
  | queue
  | ending
  deriving DecidableEq

namespace Call

/-- Whether the call can wait here, and be abandoned. It goes on from the verdict to the logs, or to
the queue, without waiting. -/
def isWaiting : Call → Bool
  | verdict | ending => true
  | logs | queue => false

/-- What a step of a call comes to: the call stands elsewhere, or returns an answer. -/
inductive Turn where
  | stands (call : Call)
  | returns (answer : Bool)

def step (c : Cursor kind) : Call → Turn × Cursor kind
  | verdict =>
    match c.phase with
    | .active =>
      if c.feed.subscription.verdict?.isSome then (.stands queue, c.heed) else (.stands logs, c)
    | .draining => (.returns c.drain.1, c.drain.2)
    | .exhausted | .failed => (.returns false, c)
  | logs =>
    match c.readQueued? with
    | some (answer, d) => (.returns answer, d)
    | none => (.stands (if c.feed.logs.hasSender then verdict else ending), c)
  | queue => (.returns c.drain.1, c.drain.2)
  | ending =>
    if c.feed.subscription.verdict?.isSome then (.returns false, { c.heed with phase := .exhausted })
    else (.stands ending, c)

/-- Whether the next step takes the first queued log. -/
def Reads (c : Cursor kind) : Call → Prop
  | verdict => c.phase = .draining
  | logs | queue => True
  | ending => False

/-- All that a step of a call can do. -/
inductive Moves (c : Cursor kind) : Call → Turn → Cursor kind → Prop
  | heed (active : c.phase = .active) (verdict : c.feed.subscription.verdict?.isSome) :
    Moves c .verdict (.stands .queue) c.heed
  | look (active : c.phase = .active) (none : c.feed.subscription.verdict? = none) :
    Moves c .verdict (.stands .logs) c
  | refuse (stopped : c.phase = .exhausted ∨ c.phase = .failed) :
    Moves c .verdict (.returns false) c
  | read {call : Call} {log : Log} {rest : List Log} {record : kind.Record} (reads : call.Reads c)
      (items : c.feed.logs.items = log :: rest) (decoded : kind.decode c.event log = .ok record) :
    Moves c call (.returns true) { c with feed.logs.items := rest, current := some record }
  | fail {call : Call} {log : Log} {rest : List Log} {e : ContractError} (reads : call.Reads c)
      (items : c.feed.logs.items = log :: rest) (broken : kind.decode c.event log = .error e) :
    Moves c call (.returns false)
      { c with feed.logs.items := rest, current := none, failure := some e, phase := .failed }
  | exhaust {call : Call} (reads : call.Reads c) (notLogs : call ≠ .logs)
      (empty : c.feed.logs.items = []) :
    Moves c call (.returns false) { c with phase := .exhausted }
  | wait (empty : c.feed.logs.items = []) (held : c.feed.logs.hasSender = true) :
    Moves c .logs (.stands .verdict) c
  | finish (empty : c.feed.logs.items = []) (gone : c.feed.logs.hasSender = false) :
    Moves c .logs (.stands .ending) c
  | stay (none : c.feed.subscription.verdict? = none) : Moves c .ending (.stands .ending) c
  | close (verdict : c.feed.subscription.verdict?.isSome) :
    Moves c .ending (.returns false) { c.heed with phase := .exhausted }

private theorem moves_readQueued {c d : Cursor kind} {call : Call} {answer : Bool}
    (reads : call.Reads c)
    (read : c.readQueued? = some (answer, d)) : Moves c call (.returns answer) d := by
  unfold readQueued? at read
  obtain ⟨⟨log, logs⟩, popped, made⟩ := Option.map_eq_some_iff.1 read
  obtain ⟨items, shape⟩ := Channel.pop?_eq_some_iff.1 popped
  have queue : logs = { c.feed.logs with items := logs.items } := by rw [← shape]
  simp only [Cursor.read] at made
  cases decoded : kind.decode c.event log with
  | ok record =>
    rw [decoded] at made
    cases made
    rw [queue]
    exact .read reads items decoded
  | error e =>
    rw [decoded] at made
    cases made
    rw [queue]
    exact .fail reads items decoded

theorem items_of_readQueued {c : Cursor kind} (none : c.readQueued? = none) :
    c.feed.logs.items = [] := by
  unfold readQueued? at none
  exact Channel.pop?_eq_none_iff.1 (Option.map_eq_none_iff.1 none)

private theorem moves_drain {c : Cursor kind} {call : Call} (reads : call.Reads c)
    (notLogs : call ≠ .logs) : Moves c call (.returns c.drain.1) c.drain.2 := by
  unfold drain
  cases read : c.readQueued? with
  | none => exact .exhaust reads notLogs (items_of_readQueued read)
  | some result => exact moves_readQueued reads read

private theorem moves_step (c : Cursor kind) (call : Call) :
    Moves c call (call.step c).1 (call.step c).2 := by
  cases call with
  | verdict =>
    cases phase : c.phase with
    | active =>
      cases verdict : c.feed.subscription.verdict? with
      | none =>
        simp only [step, phase, verdict, Option.isSome_none, Bool.false_eq_true, if_false]
        exact .look phase verdict
      | some entry =>
        simp only [step, phase, verdict, Option.isSome_some, if_true]
        exact .heed phase (by rw [verdict]; rfl)
    | draining =>
      simp only [step, phase]
      exact moves_drain phase Call.noConfusion
    | exhausted =>
      simp only [step, phase]
      exact .refuse (Or.inl phase)
    | failed =>
      simp only [step, phase]
      exact .refuse (Or.inr phase)
  | logs =>
    cases read : c.readQueued? with
    | some result =>
      simp only [step, read]
      exact moves_readQueued trivial read
    | none =>
      have empty := items_of_readQueued read
      cases held : c.feed.logs.hasSender with
      | true =>
        simp only [step, read, held, if_true]
        exact .wait empty held
      | false =>
        simp only [step, read, held, Bool.false_eq_true, if_false]
        exact .finish empty held
  | queue => exact moves_drain trivial Call.noConfusion
  | ending =>
    cases verdict : c.feed.subscription.verdict? with
    | none =>
      simp only [step, verdict, Option.isSome_none, Bool.false_eq_true, if_false]
      exact .stay verdict
    | some entry =>
      simp only [step, verdict, Option.isSome_some, if_true]
      exact .close (by rw [verdict]; rfl)

theorem reads_moves {c d : Cursor kind} {call : Call} {turn : Turn} (moves : Moves c call turn d) :
    c.feed.Reads d.feed ∧ d.feed.logs.hasReceiver = c.feed.logs.hasReceiver ∧ d.event = c.event ∧
      ∀ after, turn = .stands after → d.feed.logs = c.feed.logs := by
  have pop {log : Log} {rest : List Log} (items : c.feed.logs.items = log :: rest) :
      c.feed.Reads { c.feed with logs.items := rest } := by
    have popped : c.feed.logs.pop? = some (log, { c.feed.logs with items := rest }) :=
      Channel.pop?_eq_some_iff.2 ⟨items, rfl⟩
    exact Feed.reads_pop popped
  cases moves with
  | heed active verdict =>
    have frame := heed_frame c
    exact ⟨frame.reads, by rw [frame.logs], frame.event, fun _ _ => frame.logs⟩
  | close verdict =>
    have frame := heed_frame c
    exact ⟨frame.reads, by simp only [frame.logs], frame.event, fun _ stands => nomatch stands⟩
  | read reads items decoded => exact ⟨pop items, rfl, rfl, fun _ stands => nomatch stands⟩
  | fail reads items broken => exact ⟨pop items, rfl, rfl, fun _ stands => nomatch stands⟩
  | look | refuse | exhaust | wait | finish | stay =>
    exact ⟨Feed.Reads.refl _, rfl, rfl, fun _ _ => rfl⟩

/-- What the reader of a feed is at. A call for the next record and a call to close have the cursor to
themselves until they return. -/
inductive Stage where
  | free
  | calling (call : Call)
  | closing
  deriving DecidableEq

/-- What a reader does: it calls for the next record, goes on by one step with the call it is in,
abandons a call for the next record, takes the current record, or calls to close. -/
inductive Move where
  | next
  | step
  | abandon
  | take
  | close

inductive Act where
  | outside (act : Feed.Act)
  | move (move : Move)

/-- A cursor and its reader, with the history of the feed, the answers to the calls for the next
record, each with the record that is shown after it, and the number of calls to close that have
returned. -/
structure Scene (kind : EventKind) where
  cursor : Cursor kind
  ledger : Feed.Ledger
  answers : List (Bool × Option kind.Record)
  stage : Stage
  closes : Nat

namespace Scene

def start (event : Abi.Event) (capacity : Nat) : Scene kind :=
  ⟨.start event (.started capacity), .blank, [], .free, 0⟩

def answered (answer : Bool) (c : Cursor kind) (s : Scene kind) : Scene kind :=
  { s with cursor := c
           ledger := s.ledger.watch s.cursor.feed.logs c.feed.logs
           answers := s.answers ++ [(answer, c.current)]
           stage := .free }

/-- The call that the reader is in goes on by one step. -/
def goOn (s : Scene kind) : Scene kind :=
  match s.stage with
  | .free => s
  | .calling call =>
    match call.step s.cursor with
    | (.stands call, c) => { s with cursor := c, stage := .calling call }
    | (.returns answer, c) => s.answered answer c
  | .closing =>
    match s.cursor.endClose? with
    | none => s
    | some c => { s with cursor := c, stage := .free, closes := s.closes + 1 }

/-- A call can be made while the reader is free, and abandoned where it waits. -/
def make (s : Scene kind) : Move → Scene kind
  | .next => if s.stage = .free then { s with stage := .calling .verdict } else s
  | .step => s.goOn
  | .abandon =>
    match s.stage with
    | .calling call => if call.isWaiting then { s with stage := .free } else s
    | .free | .closing => s
  | .take => if s.stage = .free then { s with cursor := s.cursor.take.2 } else s
  | .close =>
    if s.stage = .free then { s with cursor := s.cursor.beginClose, stage := .closing } else s

def step (s : Scene kind) : Act → Scene kind
  | .outside act =>
    { s with cursor := { s.cursor with feed := s.cursor.feed.enact act }
             ledger := s.ledger.note s.cursor.feed act }
  | .move move => s.make move

def run (s : Scene kind) (acts : List Act) : Scene kind := acts.foldl step s

@[simp] theorem run_nil (s : Scene kind) : s.run [] = s := rfl

@[simp] theorem run_cons (s : Scene kind) (act : Act) (acts : List Act) :
    s.run (act :: acts) = (s.step act).run acts := rfl

theorem run_append (s : Scene kind) (first second : List Act) :
    s.run (first ++ second) = (s.run first).run second := List.foldl_append

variable {s : Scene kind} {call : Call}

theorem goOn_of_free (free : s.stage = .free) : s.goOn = s := by
  simp only [goOn, free]

theorem goOn_of_stands (calling : s.stage = .calling call) {after : Call} {c : Cursor kind}
    (made : call.step s.cursor = (.stands after, c)) :
    s.goOn = { s with cursor := c, stage := .calling after } := by
  simp only [goOn, calling, made]

theorem goOn_of_returns (calling : s.stage = .calling call) {answer : Bool} {c : Cursor kind}
    (made : call.step s.cursor = (.returns answer, c)) : s.goOn = s.answered answer c := by
  simp only [goOn, calling, made]

theorem goOn_cases (calling : s.stage = .calling call) :
    (∃ after c, Moves s.cursor call (.stands after) c ∧
      s.goOn = { s with cursor := c, stage := .calling after }) ∨
    (∃ answer c, Moves s.cursor call (.returns answer) c ∧ s.goOn = s.answered answer c) := by
  have moves := moves_step s.cursor call
  cases made : call.step s.cursor with
  | mk turn c =>
    rw [made] at moves
    cases turn with
    | stands after => exact Or.inl ⟨after, c, moves, goOn_of_stands calling made⟩
    | returns answer => exact Or.inr ⟨answer, c, moves, goOn_of_returns calling made⟩

/-- What a move of the reader comes to for the feed. -/
structure Frame (s t : Scene kind) : Prop where
  reads : s.cursor.feed.Reads t.cursor.feed
  ledger : t.ledger = s.ledger.watch s.cursor.feed.logs t.cursor.feed.logs
  held : t.cursor.feed.logs.hasReceiver = s.cursor.feed.logs.hasReceiver
  event : t.cursor.event = s.cursor.event

theorem frame_self (s : Scene kind) (stage : Stage) : s.Frame { s with stage } :=
  ⟨Feed.Reads.refl _, (Feed.Ledger.watch_self _).symm, rfl, rfl⟩

theorem frame_goOn (s : Scene kind) : s.Frame s.goOn := by
  cases stage : s.stage with
  | free =>
    rw [goOn_of_free stage]
    exact frame_self s s.stage
  | calling call =>
    rcases goOn_cases stage with ⟨after, c, moves, made⟩ | ⟨answer, c, moves, made⟩
    · obtain ⟨reads, held, event, logs⟩ := reads_moves moves
      rw [made]
      refine ⟨reads, ?_, held, event⟩
      rw [logs after rfl, Feed.Ledger.watch_self]
    · obtain ⟨reads, held, event, -⟩ := reads_moves moves
      rw [made]
      exact ⟨reads, rfl, held, event⟩
  | closing =>
    simp only [goOn, stage]
    cases joined : s.cursor.endClose? with
    | none => exact frame_self s s.stage
    | some c =>
      obtain ⟨subscription, found, rfl⟩ := Option.map_eq_some_iff.1 joined
      exact ⟨Feed.reads_join found, (Feed.Ledger.watch_self _).symm, rfl, rfl⟩

theorem frame_make (s : Scene kind) (move : Move) : s.Frame (s.make move) := by
  have still := frame_self s s.stage
  cases move with
  | step => exact frame_goOn s
  | next =>
    simp only [make]
    split
    · exact frame_self s _
    · exact still
  | abandon =>
    simp only [make]
    split
    · split
      · exact frame_self s _
      · exact still
    · exact still
    · exact still
  | take =>
    simp only [make]
    split
    · exact ⟨Feed.Reads.refl _, (Feed.Ledger.watch_self _).symm, rfl, rfl⟩
    · exact still
  | close =>
    simp only [make]
    split
    · exact ⟨Feed.reads_tell _, (Feed.Ledger.watch_self _).symm, rfl, rfl⟩
    · exact still

/-- What goes on while a call is made: a step of the call, or an act from outside. -/
def during : Option Feed.Act → Act
  | none => .move .step
  | some act => .outside act

/-- The acts from outside alone. -/
def outsideOf (meanwhile : List (Option Feed.Act)) : List Act :=
  meanwhile.filterMap (Option.map .outside)

theorem run_outside_stage (acts : List (Option Feed.Act)) (s : Scene kind) (stage : Stage) :
    { s with stage }.run (outsideOf acts) = { s.run (outsideOf acts) with stage } := by
  induction acts generalizing s with
  | nil => rfl
  | cons act acts ih =>
    cases act with
    | none => exact ih s
    | some act => exact ih (s.step (.outside act))

/-- Acts from outside leave the reader and its cursor alone, but for the feed. -/
theorem outside_frame (acts : List (Option Feed.Act)) (s : Scene kind) :
    (s.run (outsideOf acts)).cursor =
        { s.cursor with feed := (s.run (outsideOf acts)).cursor.feed } ∧
      (s.run (outsideOf acts)).ledger.taken = s.ledger.taken ∧
      (s.run (outsideOf acts)).answers = s.answers ∧
      (s.run (outsideOf acts)).closes = s.closes := by
  induction acts generalizing s with
  | nil => exact ⟨rfl, rfl, rfl, rfl⟩
  | cons act acts ih =>
    cases act with
    | none => exact ih s
    | some act =>
      obtain ⟨cursor, taken, answers, closes⟩ := ih (s.step (.outside act))
      refine ⟨cursor, taken.trans ?_, answers, closes⟩
      exact Feed.Ledger.taken_note act

theorem stage_outside (meanwhile : List (Option Feed.Act)) (s : Scene kind) :
    (s.run (outsideOf meanwhile)).stage = s.stage := by
  have staged := congrArg Scene.stage (run_outside_stage meanwhile s s.stage)
  exact staged

def Stands (c : Cursor kind) : Call → Prop
  | .verdict => True
  | .logs => c.phase = .active
  | .queue => c.phase = .draining
  | .ending => c.phase = .active ∧ c.feed.logs.items = [] ∧ c.feed.logs.hasSender = false

/-- What holds of a cursor in use. -/
structure Sound (s : Scene kind) : Prop where
  quiet : s.cursor.feed.subscription.isRunning = true → s.cursor.feed.subscription.failure = none
  drained : s.cursor.phase = .draining → s.cursor.feed.subscription.isRunning = false
  refused : (∃ a ∈ s.answers, a.1 = false) ↔ s.cursor.phase = .exhausted ∨ s.cursor.phase = .failed
  unfailing : s.cursor.failure = none ↔ s.cursor.phase ≠ .failed
  closed : s.closes ≠ 0 →
    s.cursor.phase ≠ .active ∧ Subscription.Scene.IsSpent s.cursor.feed.subscription
  closing : s.stage = .closing → s.cursor.feed.subscription.isTold = true
  stands : ∀ call, s.stage = .calling call → Stands s.cursor call

theorem sound_start (event : Abi.Event) (capacity : Nat) :
    (start event capacity : Scene kind).Sound := by
  refine ⟨fun _ => rfl, Phase.noConfusion, ?_, ⟨fun _ => Phase.noConfusion, fun _ => rfl⟩,
    fun some => absurd rfl some, Stage.noConfusion, fun _ calling => (nomatch calling)⟩
  constructor
  · rintro ⟨a, none, -⟩
    cases none
  · rintro (exhausted | failed)
    · cases exhausted
    · cases failed

private theorem Stands.enact {c : Cursor kind} (stands : Stands c call) (act : Feed.Act) :
    Stands { c with feed := c.feed.enact act } call := by
  cases call with
  | verdict | logs | queue => exact stands
  | ending =>
    obtain ⟨active, empty, gone⟩ := stands
    refine ⟨active, ?_, (Feed.Ledger.note_of_closed (l := .blank) gone act).1⟩
    cases act with
    | offer log => simpa [Feed.enact, Channel.offer, gone] using empty
    | letGo => exact empty
    | exit result => exact empty

theorem Sound.outside (sound : s.Sound) (act : Feed.Act) : (s.step (.outside act)).Sound := by
  have stands : ∀ call, (s.step (.outside act)).stage = .calling call →
      Stands (s.step (.outside act)).cursor call := by
    intro call calling
    exact (sound.stands call calling).enact act
  cases act with
  | offer log =>
    exact ⟨sound.quiet, sound.drained, sound.refused, sound.unfailing, sound.closed, sound.closing,
      stands⟩
  | letGo =>
    exact ⟨sound.quiet, sound.drained, sound.refused, sound.unfailing, sound.closed, sound.closing,
      stands⟩
  | exit result =>
    have stopped := Subscription.isRunning_exit s.cursor.feed.subscription result
    refine ⟨?_, fun _ => stopped, sound.refused, sound.unfailing, ?_, ?_, stands⟩
    · intro running
      cases stopped.symm.trans running
    · intro some
      obtain ⟨open_, spent⟩ := sound.closed some
      refine ⟨open_, ?_⟩
      change Subscription.Scene.IsSpent (s.cursor.feed.subscription.exit result)
      rw [spent.exit result]
      exact spent
    · intro closing
      exact (Subscription.isTold_exit _ _).trans (sound.closing closing)

private theorem Sound.stopped_of_verdict (sound : s.Sound)
    (verdict : s.cursor.feed.subscription.verdict?.isSome) :
    s.cursor.feed.subscription.isRunning = false := by
  cases running : s.cursor.feed.subscription.isRunning with
  | false => rfl
  | true =>
    have none := Subscription.verdict?_eq_none_iff.2 ⟨sound.quiet running, running⟩
    rw [none] at verdict
    cases verdict

theorem heed_of_verdict {c : Cursor kind} (active : c.phase = .active)
    (verdict : c.feed.subscription.verdict?.isSome) :
    c.heed.phase = .draining ∧ c.heed.feed.logs = c.feed.logs ∧
      c.heed.feed.subscription.isRunning = c.feed.subscription.isRunning := by
  rcases heed_cases c with same | ⟨-, draining, logs, running⟩
  · obtain ⟨entry, given⟩ := Option.isSome_iff_exists.1 verdict
    have changed : c.heed.phase = .draining := by simp [heed, active, given]
    rw [same, active] at changed
    cases changed
  · exact ⟨draining, logs, running⟩

private theorem Sound.stand (sound : s.Sound) (calling : s.stage = .calling call) {after : Call}
    {c : Cursor kind} (moves : Moves s.cursor call (.stands after) c) :
    Sound { s with cursor := c, stage := .calling after } := by
  have standing := sound.stands call calling
  have still (stands : Stands s.cursor after) :
      Sound { s with stage := .calling after } := by
    refine ⟨sound.quiet, sound.drained, sound.refused, sound.unfailing, sound.closed,
      Stage.noConfusion, ?_⟩
    intro other same
    cases same
    exact stands
  cases moves with
  | look active none => exact still active
  | wait empty held => exact still trivial
  | finish empty gone => exact still ⟨standing, empty, gone⟩
  | stay none => exact still standing
  | heed active verdict =>
    obtain ⟨draining, -, running⟩ := heed_of_verdict active verdict
    have stopped := running.trans (sound.stopped_of_verdict verdict)
    refine ⟨?_, fun _ => stopped, ?_, ?_, ?_, Stage.noConfusion, ?_⟩
    · intro running
      cases stopped.symm.trans running
    · have refused := sound.refused
      simp only [active, reduceCtorEq, or_self, iff_false] at refused
      simp only [draining, reduceCtorEq, or_self, iff_false]
      exact refused
    · have unfailing := sound.unfailing
      simp only [active, ne_eq, reduceCtorEq, not_false_eq_true, iff_true] at unfailing
      simpa [draining] using (heed_frame s.cursor).failure.trans unfailing
    · intro some
      exact absurd active (sound.closed some).1
    · intro other same
      cases same
      exact draining

private theorem refused_answered (sound : s.Sound) {answer : Bool} {c : Cursor kind}
    (stopped : answer = false ↔ c.phase = .exhausted ∨ c.phase = .failed)
    (still : s.cursor.phase = .exhausted ∨ s.cursor.phase = .failed → answer = false) :
    (∃ a ∈ (s.answered answer c).answers, a.1 = false) ↔
      c.phase = .exhausted ∨ c.phase = .failed := by
  rw [← stopped]
  constructor
  · rintro ⟨a, member, no⟩
    rcases List.mem_append.1 member with before | last
    · exact still (sound.refused.1 ⟨a, before, no⟩)
    · rw [List.mem_singleton.1 last] at no
      exact no
  · intro no
    exact ⟨(answer, c.current), List.mem_append_right _ (List.mem_singleton_self _), no⟩

theorem going_of_reads {c : Cursor kind} (reads : call.Reads c) (stands : Stands c call) :
    c.phase = .active ∨ c.phase = .draining := by
  cases call with
  | verdict => exact Or.inr reads
  | logs => exact Or.inl stands
  | queue => exact Or.inr stands
  | ending => exact reads.elim

private theorem Sound.answer (sound : s.Sound) (calling : s.stage = .calling call) {answer : Bool}
    {c : Cursor kind} (moves : Moves s.cursor call (.returns answer) c) :
    (s.answered answer c).Sound := by
  have standing := sound.stands call calling
  -- nothing but the phase and the answer matters where the producer's end is not looked at
  have plain (subscription : c.feed.subscription = s.cursor.feed.subscription)
      (draining : c.phase = .draining → s.cursor.phase = .draining)
      (active : c.phase = .active → s.cursor.phase = .active)
      (stopped : answer = false ↔ c.phase = .exhausted ∨ c.phase = .failed)
      (still : s.cursor.phase = .exhausted ∨ s.cursor.phase = .failed → answer = false)
      (unfailing : c.failure = none ↔ c.phase ≠ .failed) :
      (s.answered answer c).Sound := by
    refine ⟨?_, ?_, refused_answered sound stopped still, unfailing, ?_, Stage.noConfusion,
      fun _ calling => (nomatch calling)⟩
    · simp only [answered, subscription]
      exact sound.quiet
    · intro drained
      simp only [answered, subscription]
      exact sound.drained (draining drained)
    · intro some
      obtain ⟨open_, spent⟩ := sound.closed some
      simp only [answered, subscription]
      exact ⟨fun found => open_ (active found), spent⟩
  cases moves with
  | refuse stopped => exact plain rfl id id (by simp [stopped]) (fun _ => rfl) sound.unfailing
  | read reads items decoded =>
    have going := going_of_reads reads standing
    refine plain rfl id id ?_ ?_ sound.unfailing
    · rcases going with phase | phase <;> simp [phase]
    · rcases going with phase | phase <;> simp [phase]
  | fail reads items broken =>
    exact plain rfl Phase.noConfusion Phase.noConfusion (by simp) (fun _ => rfl) (by simp)
  | exhaust reads notLogs empty =>
    have unfailing := sound.unfailing
    refine plain rfl Phase.noConfusion Phase.noConfusion (by simp) (fun _ => rfl) ?_
    rcases going_of_reads reads standing with phase | phase <;> simpa [phase] using unfailing
  | close verdict =>
    obtain ⟨active, -, -⟩ := standing
    obtain ⟨-, -, running⟩ := heed_of_verdict active verdict
    have stopped := running.trans (sound.stopped_of_verdict verdict)
    refine ⟨?_, Phase.noConfusion, refused_answered sound (by simp) fun _ => rfl, ?_, ?_,
      Stage.noConfusion, fun _ calling => (nomatch calling)⟩
    · intro running
      cases stopped.symm.trans running
    · have unfailing := sound.unfailing
      simp only [active, ne_eq, reduceCtorEq, not_false_eq_true, iff_true] at unfailing
      simpa [answered] using (heed_frame s.cursor).failure.trans unfailing
    · intro some
      exact absurd active (sound.closed some).1

private theorem Sound.join (sound : s.Sound) (closing : s.stage = .closing) {c : Cursor kind}
    (joined : s.cursor.endClose? = some c) :
    Sound { s with cursor := c, stage := .free, closes := s.closes + 1 } := by
  obtain ⟨subscription, found, rfl⟩ := Option.map_eq_some_iff.1 joined
  have told := sound.closing closing
  unfold Subscription.join? at found
  split at found
  · cases found
  · rename_i ended
    cases found
    have stopped : s.cursor.feed.subscription.isRunning = false := by simpa using ended
    have refused := sound.refused
    refine ⟨fun _ => rfl, fun _ => stopped, ?_, ?_, fun _ => ⟨?_, told, stopped, rfl⟩,
      Stage.noConfusion, fun _ calling => (nomatch calling)⟩
    · cases phase : s.cursor.phase <;> simpa [phase] using refused
    · have unfailing := sound.unfailing
      cases phase : s.cursor.phase <;> simpa [phase] using unfailing
    · cases phase : s.cursor.phase <;> simp

theorem Sound.goOn (sound : s.Sound) : s.goOn.Sound := by
  cases stage : s.stage with
  | free =>
    simp only [Scene.goOn, stage]
    exact sound
  | calling call =>
    rcases goOn_cases stage with ⟨after, c, moves, made⟩ | ⟨answer, c, moves, made⟩
    · rw [made]
      exact sound.stand stage moves
    · rw [made]
      exact sound.answer stage moves
  | closing =>
    simp only [Scene.goOn, stage]
    cases joined : s.cursor.endClose? with
    | none => exact sound
    | some c => exact sound.join stage joined

theorem Sound.make (sound : s.Sound) (move : Move) : (s.make move).Sound := by
  have free : Sound { s with stage := .free } :=
    ⟨sound.quiet, sound.drained, sound.refused, sound.unfailing, sound.closed, Stage.noConfusion,
      fun _ calling => (nomatch calling)⟩
  cases move with
  | next =>
    simp only [Scene.make]
    split
    · refine ⟨sound.quiet, sound.drained, sound.refused, sound.unfailing, sound.closed,
        Stage.noConfusion, ?_⟩
      intro call calling
      cases calling
      exact trivial
    · exact sound
  | step => exact sound.goOn
  | abandon =>
    simp only [Scene.make]
    split
    · split
      · exact free
      · exact sound
    · exact sound
    · exact sound
  | take =>
    simp only [Scene.make]
    split
    · rename_i idle
      refine ⟨sound.quiet, sound.drained, sound.refused, sound.unfailing, sound.closed,
        sound.closing, ?_⟩
      intro call calling
      cases calling.symm.trans idle
    · exact sound
  | close =>
    simp only [Scene.make]
    split
    · refine ⟨sound.quiet, sound.drained, sound.refused, sound.unfailing, ?_, fun _ => rfl,
        fun _ calling => (nomatch calling)⟩
      intro some
      obtain ⟨open_, spent⟩ := sound.closed some
      exact ⟨open_, rfl, spent.2⟩
    · exact sound

theorem Sound.step (sound : s.Sound) (act : Act) : (s.step act).Sound := by
  cases act with
  | outside act => exact sound.outside act
  | move move => exact sound.make move

theorem Sound.run (sound : s.Sound) (acts : List Act) : (s.run acts).Sound := by
  induction acts generalizing s with
  | nil => exact sound
  | cons act acts ih => exact ih (sound.step act)

end Scene

end Call

end NameRights.Cursor
