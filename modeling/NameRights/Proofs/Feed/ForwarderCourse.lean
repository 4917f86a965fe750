/- NameRights/Proofs/Feed/ForwarderCourse
   digest: Whatever happens while a feed is forwarded, its records are pushed in order, and every end
   of the forwarding has its own cause. -/

import NameRights.Feed.Forwarder
import NameRights.Proofs.Feed.Ledger

set_option autoImplicit false
set_option relaxedAutoImplicit false

namespace NameRights.Forwarder

variable {kind : EventKind}

/-- The parts of a step: to look whether the owner says to quit, at the verdict of the producer, at
the logs and the sink; and, once the result is decided, to leave. -/
inductive Part where
  | quit
  | verdict
  | carry
  | leave

def Stage.result? : Stage → Option (Except ContractError Unit)
  | .forwarding => none
  | .stopping result => some result
  | .leaving result => some result
  | .gone => none

def part? (f : Forwarder kind) (part : Part) : Option (Forwarder kind) :=
  match f.stage, part with
  | .forwarding, .quit => f.heedQuit?
  | .forwarding, .verdict => f.heedVerdict?
  | .forwarding, .carry => f.carryOn?
  | .forwarding, .leave => none
  | .stopping _, .leave | .leaving _, .leave | .gone, .leave => f.step?
  | .stopping _, _ | .leaving _, _ | .gone, _ => none

theorem step?_eq_parts (f : Forwarder kind) :
    f.step? = (f.part? .quit).or ((f.part? .verdict).or ((f.part? .carry).or (f.part? .leave))) := by
  unfold part?
  cases stage : f.stage with
  | forwarding => simp only [step?, stage, forward?, Option.or_none]
  | stopping result => simp only [Option.none_or]
  | leaving result => simp only [Option.none_or]
  | gone => simp only [Option.none_or]

theorem step?_of_part {f g : Forwarder kind} {part : Part} (decided : f.stage ≠ .forwarding)
    (made : f.part? part = some g) : f.step? = some g := by
  unfold part? at made
  split at made
  · exact absurd ‹_› decided
  · exact absurd ‹_› decided
  · exact absurd ‹_› decided
  · exact absurd ‹_› decided
  · exact made
  · exact made
  · exact made
  · cases made
  · cases made
  · cases made

theorem sink_of_leave {f g : Forwarder kind} (decided : f.stage ≠ .forwarding)
    (made : f.step? = some g) : g.stage ≠ .forwarding ∧ g.sink.items = f.sink.items := by
  unfold step? at made
  split at made
  · exact absurd ‹_› decided
  · obtain ⟨subscription, -, rfl⟩ := Option.map_eq_some_iff.1 made
    exact ⟨Stage.noConfusion, rfl⟩
  · cases made
    exact ⟨Stage.noConfusion, rfl⟩
  · cases made

/-- What happens while a feed is forwarded: an act on the feed from outside, a record received from
the sink, the sink's receiving end let go of, the forwarder told to quit, or a part of a step. -/
inductive Act where
  | outside (act : Feed.Act)
  | receive
  | dropSink
  | cancel
  | part (part : Part)

/-- A forwarder at work, with the history of its feed, all records pushed into the sink so far, and
the result once it is decided. -/
structure Scene (kind : EventKind) where
  forwarder : Forwarder kind
  ledger : Feed.Ledger
  pushed : List kind.Record
  result : Option (Except ContractError Unit)

namespace Scene

def start (event : Abi.Event) (feedCapacity sinkCapacity : Nat) : Scene kind :=
  ⟨.start event (.started feedCapacity) sinkCapacity, .blank, [], none⟩

/-- The scene after a move of the forwarder. -/
def moved (s : Scene kind) (f : Forwarder kind) : Scene kind where
  forwarder := f
  ledger := s.ledger.watch s.forwarder.feed.logs f.feed.logs
  pushed := s.pushed ++ f.sink.items.drop s.forwarder.sink.items.length
  result := s.result.or f.stage.result?

def withSink (s : Scene kind) (sink : Channel kind.Record) : Scene kind :=
  { s with forwarder := { s.forwarder with sink } }

def step (s : Scene kind) : Act → Scene kind
  | .outside act =>
    { s with forwarder := { s.forwarder with feed := s.forwarder.feed.enact act }
             ledger := s.ledger.note s.forwarder.feed act }
  | .receive =>
    match s.forwarder.sink.pop? with
    | none => s
    | some (_, sink) => s.withSink sink
  | .dropSink => s.withSink s.forwarder.sink.dropReceiver
  | .cancel => { s with forwarder := { s.forwarder with handle := s.forwarder.handle.tell } }
  | .part part => ((s.forwarder.part? part).map s.moved).getD s

def run (s : Scene kind) (acts : List Act) : Scene kind := acts.foldl step s

/-- The scene after a whole step of the forwarder. -/
def poll (s : Scene kind) : Scene kind := (s.forwarder.step?.map s.moved).getD s

theorem exists_poll_eq_step (s : Scene kind) : ∃ part, s.poll = s.step (.part part) := by
  unfold poll
  rw [step?_eq_parts]
  cases quit : s.forwarder.part? .quit with
  | some f =>
    refine ⟨.quit, ?_⟩
    simp only [step, quit, Option.some_or]
  | none =>
    cases verdict : s.forwarder.part? .verdict with
    | some f =>
      refine ⟨.verdict, ?_⟩
      simp only [step, verdict, Option.none_or, Option.some_or]
    | none =>
      cases carry : s.forwarder.part? .carry with
      | some f =>
        refine ⟨.carry, ?_⟩
        simp only [step, carry, Option.none_or, Option.some_or]
      | none =>
        refine ⟨.leave, ?_⟩
        simp only [step, Option.none_or]

/-- Why a forwarder ends that was not told to: its feed ended well and closed, and all was pushed; or
nobody receives; or the next log is no record; or the producer failed. -/
def Cause (event : Abi.Event) (s : Scene kind) : Except ContractError Unit → Prop
  | .ok () =>
    (∃ k, s.ledger.ended = some (k, .ok ())) ∧ s.forwarder.feed.logs.hasSender = false ∧
      s.pushed.length = s.ledger.accepted.length
  | .error e =>
    (e = .sinkClosed ∧ s.forwarder.sink.hasReceiver = false) ∨
    (∃ log, s.ledger.accepted[s.pushed.length]? = some log ∧ kind.decode event log = .error e) ∨
    (∃ k, s.ledger.ended = some (k, .error e))

structure Settled (event : Abi.Event) (s : Scene kind) (result : Except ContractError Unit) :
    Prop where
  decided : s.result = some result
  carried : ∃ front, front <+: s.ledger.taken ∧ s.ledger.taken.length ≤ front.length + 1 ∧
    front.map (kind.decode event) = s.pushed.map .ok
  cause : (s.forwarder.handle.isTold = true ∧ result = .ok ()) ∨ s.Cause event result

/-- What holds in each stage of the forwarder. While it forwards, the logs it took are the records
it pushed and the one it holds. -/
def Standing (event : Abi.Event) (s : Scene kind) : Stage → Prop
  | .forwarding =>
    s.result = none ∧ s.forwarder.feed.logs.hasReceiver = true ∧
      s.ledger.Unread s.forwarder.feed ∧
      s.ledger.taken.map (kind.decode event) = (s.pushed ++ s.forwarder.held.toList).map .ok
  | .stopping result => s.Settled event result
  | .leaving result => s.Settled event result
  | .gone => ∃ result, s.Settled event result

/-- What the owner's handle shows in each stage: the result, once the forwarder is gone. -/
def Shown (s : Scene kind) : Stage → Prop
  | .gone =>
    s.forwarder.handle.isRunning = false ∧
      s.result.bind Feed.failureOf = s.forwarder.handle.failure
  | .forwarding | .stopping _ | .leaving _ => s.forwarder.handle.isRunning = true

structure Holds (event : Abi.Event) (s : Scene kind) : Prop where
  sameEvent : s.forwarder.event = event
  fits : s.ledger.Fits s.forwarder.feed
  standing : s.Standing event s.forwarder.stage
  shown : s.Shown s.forwarder.stage

theorem holds_start (event : Abi.Event) (feedCapacity sinkCapacity : Nat) :
    (start event feedCapacity sinkCapacity : Scene kind).Holds event :=
  ⟨rfl, Feed.Ledger.fits_blank feedCapacity, ⟨rfl, rfl, Feed.Ledger.unread_blank _, rfl⟩, rfl⟩

variable {event : Abi.Event} {s t : Scene kind} {f : Forwarder kind}
  {result : Except ContractError Unit}

/-- What a scene can come to while the forwarder pushes nothing: logs may be accepted as long as the
sending end is held, and what has happened once does not unhappen. -/
structure Later (s t : Scene kind) : Prop where
  pushed : t.pushed = s.pushed
  accepted : s.ledger.accepted <+: t.ledger.accepted
  shut : s.forwarder.feed.logs.hasSender = false →
    t.forwarder.feed.logs.hasSender = false ∧ t.ledger.accepted = s.ledger.accepted
  ended : ∀ k result, s.ledger.ended = some (k, result) → t.ledger.ended = some (k, result)
  told : s.forwarder.handle.isTold = true → t.forwarder.handle.isTold = true
  unheard : s.forwarder.sink.hasReceiver = false → t.forwarder.sink.hasReceiver = false

private theorem Cause.later (cause : s.Cause event result) (later : s.Later t) :
    t.Cause event result := by
  cases result with
  | ok u =>
    obtain ⟨⟨k, ended⟩, closed, all⟩ := cause
    obtain ⟨closed', accepted⟩ := later.shut closed
    refine ⟨⟨k, later.ended k _ ended⟩, closed', ?_⟩
    rw [later.pushed, accepted, all]
  | error e =>
    rcases cause with ⟨unheard, gone⟩ | ⟨log, next, broken⟩ | ⟨k, ended⟩
    · exact Or.inl ⟨unheard, later.unheard gone⟩
    · obtain ⟨rest, whole⟩ := later.accepted
      have within := (List.getElem?_eq_some_iff.1 next).1
      refine Or.inr (Or.inl ⟨log, ?_, broken⟩)
      rw [later.pushed, ← whole, List.getElem?_append_left within, next]
    · exact Or.inr (Or.inr ⟨k, later.ended k _ ended⟩)

private theorem Settled.later (settled : s.Settled event result) (later : s.Later t)
    (taken : t.ledger.taken = s.ledger.taken) (same : t.result = s.result) :
    t.Settled event result := by
  refine ⟨same.trans settled.decided, ?_, ?_⟩
  · rw [taken, later.pushed]
    exact settled.carried
  · rcases settled.cause with ⟨told, ok⟩ | cause
    · exact Or.inl ⟨later.told told, ok⟩
    · exact Or.inr (cause.later later)

private theorem Standing.later (standing : s.Standing event s.forwarder.stage) (later : s.Later t)
    (taken : t.ledger.taken = s.ledger.taken) (same : t.result = s.result)
    (held : t.forwarder.held = s.forwarder.held)
    (receiver : t.forwarder.feed.logs.hasReceiver = s.forwarder.feed.logs.hasReceiver)
    (unread : s.ledger.Unread s.forwarder.feed → t.ledger.Unread t.forwarder.feed) :
    t.Standing event s.forwarder.stage := by
  cases stage : s.forwarder.stage with
  | forwarding =>
    rw [stage] at standing
    obtain ⟨undecided, attached, read, carried⟩ := standing
    refine ⟨same.trans undecided, receiver.trans attached, unread read, ?_⟩
    rw [taken, later.pushed, held]
    exact carried
  | stopping result =>
    rw [stage] at standing
    exact Settled.later standing later taken same
  | leaving result =>
    rw [stage] at standing
    exact Settled.later standing later taken same
  | gone =>
    rw [stage] at standing
    obtain ⟨result, settled⟩ := standing
    exact ⟨result, settled.later later taken same⟩

private theorem later_outside (fits : s.ledger.Fits s.forwarder.feed) (act : Feed.Act) :
    s.Later (s.step (.outside act)) := by
  refine ⟨rfl, Feed.Ledger.accepted_note act, ?_, ?_, id, id⟩
  · exact fun closed => Feed.Ledger.note_of_closed closed act
  · exact fun k result ended => fits.ended_note ended act

private theorem later_withSink {sink : Channel kind.Record}
    (kept : s.forwarder.sink.hasReceiver = false → sink.hasReceiver = false) :
    s.Later (s.withSink sink) :=
  ⟨rfl, List.prefix_rfl, fun closed => ⟨closed, rfl⟩, fun _ _ => id, id, kept⟩

private theorem later_cancel : s.Later (s.step .cancel) :=
  ⟨rfl, List.prefix_rfl, fun closed => ⟨closed, rfl⟩, fun _ _ => id, fun _ => rfl, id⟩

theorem Holds.outside (holds : s.Holds event) (act : Feed.Act) :
    (s.step (.outside act)).Holds event :=
  ⟨holds.sameEvent, holds.fits.note act,
    holds.standing.later (later_outside holds.fits act) (Feed.Ledger.taken_note act) rfl rfl
      (Feed.hasReceiver_enact _ act) fun unread => unread.note act, holds.shown⟩

theorem Holds.withSink (holds : s.Holds event) {sink : Channel kind.Record}
    (kept : s.forwarder.sink.hasReceiver = false → sink.hasReceiver = false) :
    (s.withSink sink).Holds event :=
  ⟨holds.sameEvent, holds.fits, holds.standing.later (later_withSink kept) rfl rfl rfl rfl id,
    holds.shown⟩

private theorem Holds.cancel (holds : s.Holds event) : (s.step .cancel).Holds event :=
  ⟨holds.sameEvent, holds.fits, holds.standing.later later_cancel rfl rfl rfl rfl id,
    holds.shown⟩

private theorem hasReceiver_of_pop {α : Type} {c d : Channel α} {a : α}
    (popped : c.pop? = some (a, d)) : d.hasReceiver = c.hasReceiver := by
  unfold Channel.pop? at popped
  split at popped
  · cases popped
  · cases popped
    rfl

private theorem Holds.receive (holds : s.Holds event) : (s.step .receive).Holds event := by
  simp only [step]
  cases popped : s.forwarder.sink.pop? with
  | none => exact holds
  | some entry =>
    obtain ⟨record, sink⟩ := entry
    exact holds.withSink fun gone => (hasReceiver_of_pop popped).trans gone

private theorem Holds.dropSink (holds : s.Holds event) : (s.step .dropSink).Holds event :=
  holds.withSink fun _ => rfl

theorem pushed_moved (sink : f.sink.items = s.forwarder.sink.items) :
    (s.moved f).pushed = s.pushed := by
  simp only [moved, sink, List.drop_length, List.append_nil]

theorem result_moved (forwarding : f.stage = .forwarding) :
    (s.moved f).result = s.result := by
  simp only [moved, forwarding, Stage.result?, Option.or_none]

private theorem later_moved (sink : f.sink.items = s.forwarder.sink.items)
    (sender : f.feed.logs.hasSender = s.forwarder.feed.logs.hasSender)
    (told : f.handle.isTold = s.forwarder.handle.isTold)
    (receiver : f.sink.hasReceiver = s.forwarder.sink.hasReceiver) : s.Later (s.moved f) := by
  refine ⟨pushed_moved sink, ?_, ?_, ?_, told.trans, receiver.trans⟩
  · simp only [moved, Feed.Ledger.accepted_watch, List.prefix_rfl]
  · intro closed
    exact ⟨sender.trans closed, Feed.Ledger.accepted_watch _ _⟩
  · intro k result ended
    exact (Feed.Ledger.ended_watch _ _).trans ended

private theorem carried_of_held {taken : List Log} {pushed : List kind.Record}
    {held : Option kind.Record}
    (carried : taken.map (kind.decode event) = (pushed ++ held.toList).map .ok) :
    ∃ front, front <+: taken ∧ taken.length ≤ front.length + 1 ∧
      front.map (kind.decode event) = pushed.map .ok := by
  have lengths := congrArg List.length carried
  rw [List.length_map, List.length_map, List.length_append] at lengths
  refine ⟨taken.take pushed.length, List.take_prefix _ _, ?_, ?_⟩
  · rw [List.length_take]
    cases held with
    | none =>
      rw [Option.toList_none, List.length_nil] at lengths
      omega
    | some record =>
      rw [Option.toList_some, List.length_singleton] at lengths
      omega
  · rw [List.map_take, carried, List.map_append, ← List.length_map (f := Except.ok),
      List.take_left]

private theorem Holds.running (holds : s.Holds event)
    (forwarding : s.forwarder.stage = .forwarding) : s.forwarder.handle.isRunning = true := by
  have shown := holds.shown
  rw [forwarding] at shown
  exact shown

private theorem holds_decide (sameEvent : f.event = event) (undecided : s.result = none)
    (sink : f.sink = s.forwarder.sink) (handle : f.handle = s.forwarder.handle)
    (sender : f.feed.logs.hasSender = s.forwarder.feed.logs.hasSender)
    (fits : (s.ledger.watch s.forwarder.feed.logs f.feed.logs).Fits f.feed)
    (carried : ∃ front, front <+: (s.ledger.watch s.forwarder.feed.logs f.feed.logs).taken ∧
      (s.ledger.watch s.forwarder.feed.logs f.feed.logs).taken.length ≤ front.length + 1 ∧
      front.map (kind.decode event) = s.pushed.map .ok)
    (cause : (s.forwarder.handle.isTold = true ∧ result = .ok ()) ∨ s.Cause event result)
    (running : s.forwarder.handle.isRunning = true) : (s.moved (f.decide result)).Holds event := by
  have later : s.Later (s.moved (f.decide result)) :=
    later_moved (congrArg Channel.items sink) sender (congrArg Subscription.isTold handle)
      (congrArg Channel.hasReceiver sink)
  refine ⟨sameEvent, fits.tell, ⟨?_, ?_, ?_⟩, (congrArg Subscription.isRunning handle).trans running⟩
  · simp only [moved, undecided, Option.none_or]
    rfl
  · rw [later.pushed]
    exact carried
  · rcases cause with ⟨told, ok⟩ | cause
    · exact Or.inl ⟨later.told told, ok⟩
    · exact Or.inr (cause.later later)

private theorem holds_forward (sameEvent : f.event = event) (forwarding : f.stage = .forwarding)
    (undecided : s.result = none) (attached : f.feed.logs.hasReceiver = true)
    (fits : (s.ledger.watch s.forwarder.feed.logs f.feed.logs).Fits f.feed)
    (unread : (s.ledger.watch s.forwarder.feed.logs f.feed.logs).Unread f.feed)
    (carried : (s.ledger.watch s.forwarder.feed.logs f.feed.logs).taken.map (kind.decode event) =
      ((s.moved f).pushed ++ f.held.toList).map .ok)
    (running : f.handle.isRunning = true) : (s.moved f).Holds event := by
  refine ⟨sameEvent, fits, ?_, ?_⟩
  · change Standing event _ f.stage
    rw [forwarding]
    exact ⟨(result_moved forwarding).trans undecided, attached, unread, carried⟩
  · change Shown _ f.stage
    rw [forwarding]
    exact running

private theorem Holds.decide (holds : s.Holds event) (forwarding : s.forwarder.stage = .forwarding)
    {subscription : Subscription}
    (fits : s.ledger.Fits { s.forwarder.feed with subscription })
    (cause : (s.forwarder.handle.isTold = true ∧ result = .ok ()) ∨ s.Cause event result) :
    (s.moved (Forwarder.decide result { s.forwarder with feed.subscription := subscription })).Holds
      event := by
  have standing := holds.standing
  rw [forwarding] at standing
  obtain ⟨undecided, attached, unread, carried⟩ := standing
  refine holds_decide (f := { s.forwarder with feed.subscription := subscription })
    holds.sameEvent undecided rfl rfl rfl ?_ ?_ cause (holds.running forwarding)
  · rw [Feed.Ledger.watch_self]
    exact fits
  · rw [Feed.Ledger.watch_self]
    exact carried_of_held carried

private theorem Holds.heedQuit (holds : s.Holds event)
    (forwarding : s.forwarder.stage = .forwarding) (made : s.forwarder.heedQuit? = some f) :
    (s.moved f).Holds event := by
  unfold heedQuit? at made
  split at made
  · rename_i told
    cases made
    exact holds.decide forwarding holds.fits (Or.inl ⟨told, rfl⟩)
  · cases made

private theorem Holds.heedVerdict (holds : s.Holds event)
    (forwarding : s.forwarder.stage = .forwarding) (made : s.forwarder.heedVerdict? = some f) :
    (s.moved f).Holds event := by
  have standing := holds.standing
  rw [forwarding] at standing
  obtain ⟨undecided, attached, unread, carried⟩ := standing
  unfold heedVerdict? at made
  by_cases fed : s.forwarder.isFed = true
  · rw [if_pos fed] at made
    cases verdict : s.forwarder.feed.subscription.verdict? with
    | none =>
      rw [verdict] at made
      cases made
    | some entry =>
      obtain ⟨failure, subscription⟩ := entry
      rw [verdict] at made
      obtain ⟨k, result, ended, rfl⟩ := holds.fits.verdict unread verdict
      cases result with
      | ok u =>
        cases made
        have same := Subscription.eq_of_verdict_none verdict
        subst same
        refine holds_forward (f := { s.forwarder with isFed := false }) holds.sameEvent forwarding
          undecided attached ?_ ?_ ?_ (holds.running forwarding)
        · rw [Feed.Ledger.watch_self]
          exact holds.fits
        · rw [Feed.Ledger.watch_self]
          exact unread
        · simp only [moved, Feed.Ledger.watch_self, List.drop_length, List.append_nil]
          exact carried
      | error e =>
        cases made
        have cause : s.Cause event (.error e) := Or.inr (Or.inr ⟨k, ended⟩)
        exact holds.decide forwarding (holds.fits.collected verdict) (Or.inr cause)
  · rw [if_neg fed] at made
    cases made

private theorem Holds.push (holds : s.Holds event)
    (forwarding : s.forwarder.stage = .forwarding) {record : kind.Record}
    (held : s.forwarder.held = some record) (made : s.forwarder.push? record = some f) :
    (s.moved f).Holds event := by
  have standing := holds.standing
  rw [forwarding] at standing
  obtain ⟨undecided, attached, unread, carried⟩ := standing
  unfold push? at made
  split at made
  · rename_i unheard
    cases made
    have gone : s.forwarder.sink.hasReceiver = false := by simpa using unheard
    have cause : s.Cause event (.error .sinkClosed) := Or.inl ⟨rfl, gone⟩
    exact holds.decide forwarding holds.fits (Or.inr cause)
  · split at made
    · cases made
      rw [held, Option.toList_some] at carried
      refine holds_forward
        (f := { s.forwarder with sink := s.forwarder.sink.push record, held := none })
        holds.sameEvent forwarding undecided attached ?_ ?_ ?_ (holds.running forwarding)
      · rw [Feed.Ledger.watch_self]
        exact holds.fits
      · rw [Feed.Ledger.watch_self]
        exact unread
      · simp only [moved, Feed.Ledger.watch_self, Channel.push, List.drop_left, Option.toList_none,
          List.append_nil]
        exact carried
    · cases made

/-- A log that is taken is the next one accepted; a feed that is over ends the forwarding with the
producer's verdict, after all that was accepted. -/
private theorem Holds.takeLog (holds : s.Holds event)
    (forwarding : s.forwarder.stage = .forwarding) (free : s.forwarder.held = none)
    (made : s.forwarder.takeLog? = some f) : (s.moved f).Holds event := by
  obtain ⟨rfl, fits, standing, shown⟩ := holds
  have intact : s.Holds s.forwarder.event := ⟨rfl, fits, standing, shown⟩
  have running := intact.running forwarding
  rw [forwarding] at standing
  obtain ⟨undecided, attached, unread, carried⟩ := standing
  rw [free, Option.toList_none, List.append_nil] at carried
  have lengths := congrArg List.length carried
  rw [List.length_map, List.length_map] at lengths
  unfold takeLog? at made
  cases popped : s.forwarder.feed.logs.pop? with
  | some entry =>
    obtain ⟨log, logs⟩ := entry
    obtain ⟨fits', taken, next, shape⟩ := fits.pop attached popped
    rw [popped] at made
    cases decoded : kind.decode s.forwarder.event log with
    | ok record =>
      simp only [decoded] at made
      cases made
      refine holds_forward (f := { s.forwarder with feed.logs := logs, held := some record }) rfl
        forwarding undecided ?_ fits' (unread.watch _ _) ?_ running
      · rw [shape]
        exact attached
      · simp only [moved, taken, List.drop_length, List.append_nil, Option.toList_some,
          List.map_append, carried, List.map_cons, List.map_nil, decoded]
    | error e =>
      simp only [decoded] at made
      cases made
      rw [lengths] at next
      have cause : s.Cause s.forwarder.event (.error e) := Or.inr (Or.inl ⟨log, next, decoded⟩)
      refine holds_decide (f := { s.forwarder with feed.logs := logs }) rfl undecided rfl rfl ?_
        fits' ?_ (Or.inr cause) running
      · rw [shape]
      · rw [taken]
        exact ⟨s.ledger.taken, List.prefix_append _ _, Nat.le_of_eq List.length_append, carried⟩
  | none =>
    rw [popped] at made
    simp only at made
    split at made
    · cases made
    · rename_i closed
      obtain ⟨⟨failure, subscription⟩, verdict, made⟩ := Option.map_eq_some_iff.1 made
      cases made
      obtain ⟨k, result, ended, rfl⟩ := fits.verdict unread verdict
      have empty : s.forwarder.feed.logs.items = [] := by
        unfold Channel.pop? at popped
        split at popped
        · assumption
        · cases popped
      have all : s.pushed.length = s.ledger.accepted.length := by
        rw [fits.queued attached, empty, List.append_nil, lengths]
      cases result with
      | ok u =>
        have cause : s.Cause s.forwarder.event (.ok ()) := ⟨⟨k, ended⟩, by simpa using closed, all⟩
        exact intact.decide forwarding (fits.collected verdict) (Or.inr cause)
      | error e =>
        have cause : s.Cause s.forwarder.event (.error e) := Or.inr (Or.inr ⟨k, ended⟩)
        exact intact.decide forwarding (fits.collected verdict) (Or.inr cause)

private theorem Holds.leave (holds : s.Holds event) (decided : s.forwarder.stage ≠ .forwarding)
    (made : s.forwarder.step? = some f) : (s.moved f).Holds event := by
  obtain ⟨sameEvent, fits, standing, shown⟩ := holds
  unfold step? at made
  cases stage : s.forwarder.stage with
  | forwarding => exact absurd stage decided
  | stopping result =>
    rw [stage] at standing shown made
    have settled : s.Settled event result := standing
    obtain ⟨subscription, joined, rfl⟩ := Option.map_eq_some_iff.1 made
    refine ⟨sameEvent, fits.dropped joined, ?_, shown⟩
    refine settled.later (later_moved rfl rfl rfl rfl) rfl ?_
    simp only [moved, settled.decided, Option.some_or]
  | leaving result =>
    rw [stage] at standing shown made
    have settled : s.Settled event result := standing
    have running : s.forwarder.handle.isRunning = true := shown
    cases made
    refine ⟨sameEvent, ?_, ⟨result, ?_⟩, ?_⟩
    · simp only [moved, Feed.Ledger.watch_self]
      exact fits
    · refine settled.later (later_moved rfl rfl (Subscription.isTold_exit _ _) rfl) ?_ ?_
      · simp only [moved, Feed.Ledger.watch_self]
      · simp only [moved, settled.decided, Option.some_or]
    · have exited : (s.forwarder.handle.exit result).isRunning = false ∧
          Feed.failureOf result = (s.forwarder.handle.exit result).failure := by
        unfold Subscription.exit
        rw [if_pos running]
        cases result <;> exact ⟨rfl, rfl⟩
      refine ⟨exited.1, ?_⟩
      simp only [moved, settled.decided, Option.some_or, Option.bind_some]
      exact exited.2
  | gone =>
    rw [stage] at made
    cases made

theorem Holds.part (holds : s.Holds event) (part : Part) : (s.step (.part part)).Holds event := by
  simp only [step]
  cases made : s.forwarder.part? part with
  | none => exact holds
  | some f =>
    change (s.moved f).Holds event
    by_cases forwarding : s.forwarder.stage = .forwarding
    · unfold part? at made
      rw [forwarding] at made
      cases part with
      | quit => exact holds.heedQuit forwarding made
      | verdict => exact holds.heedVerdict forwarding made
      | carry =>
        change s.forwarder.carryOn? = some f at made
        unfold carryOn? at made
        cases held : s.forwarder.held with
        | none =>
          rw [held] at made
          exact holds.takeLog forwarding held made
        | some record =>
          rw [held] at made
          exact holds.push forwarding held made
      | leave => cases made
    · exact holds.leave forwarding (step?_of_part forwarding made)

theorem Holds.step (holds : s.Holds event) (act : Act) : (s.step act).Holds event := by
  cases act with
  | outside act => exact holds.outside act
  | receive => exact holds.receive
  | dropSink => exact holds.dropSink
  | cancel => exact holds.cancel
  | part part => exact holds.part part

theorem Holds.run (holds : s.Holds event) (acts : List Act) : (s.run acts).Holds event := by
  induction acts generalizing s with
  | nil => exact holds
  | cons act acts ih => exact ih (holds.step act)

private def IsDecided (s : Scene kind) (result : Except ContractError Unit) : Prop :=
  s.forwarder.stage ≠ .forwarding ∧ s.result = some result

private theorem IsDecided.step (decided : s.IsDecided result) (act : Act) :
    (s.step act).IsDecided result ∧ (s.step act).pushed = s.pushed := by
  cases act with
  | outside act => exact ⟨decided, rfl⟩
  | receive =>
    simp only [Scene.step]
    split <;> exact ⟨decided, rfl⟩
  | dropSink => exact ⟨decided, rfl⟩
  | cancel => exact ⟨decided, rfl⟩
  | part part =>
    simp only [Scene.step]
    cases made : s.forwarder.part? part with
    | none => exact ⟨decided, rfl⟩
    | some f =>
      obtain ⟨still, items⟩ := sink_of_leave decided.1 (step?_of_part decided.1 made)
      refine ⟨⟨still, ?_⟩, pushed_moved items⟩
      simp only [Option.map_some, Option.getD_some, moved, decided.2, Option.some_or]

private theorem IsDecided.run (decided : s.IsDecided result) (acts : List Act) :
    (s.run acts).IsDecided result ∧ (s.run acts).pushed = s.pushed := by
  induction acts generalizing s with
  | nil => exact ⟨decided, rfl⟩
  | cons act acts ih =>
    obtain ⟨once, same⟩ := decided.step act
    obtain ⟨always, same'⟩ := ih once
    exact ⟨always, same'.trans same⟩

theorem Holds.forwarding_or_settled (holds : s.Holds event) :
    (s.forwarder.stage = .forwarding ∧ s.result = none ∧
      s.ledger.taken.map (kind.decode event) = (s.pushed ++ s.forwarder.held.toList).map .ok) ∨
    (s.forwarder.stage ≠ .forwarding ∧ ∃ result, s.Settled event result) := by
  have standing := holds.standing
  cases stage : s.forwarder.stage with
  | forwarding =>
    rw [stage] at standing
    exact Or.inl ⟨rfl, standing.1, standing.2.2.2⟩
  | stopping result =>
    rw [stage] at standing
    exact Or.inr ⟨Stage.noConfusion, result, standing⟩
  | leaving result =>
    rw [stage] at standing
    exact Or.inr ⟨Stage.noConfusion, result, standing⟩
  | gone =>
    rw [stage] at standing
    exact Or.inr ⟨Stage.noConfusion, standing⟩

/-- A step begun after the forwarder was told to quit pushes nothing; if no result was decided, it
decides to end well. -/
private theorem Holds.poll_told (holds : s.Holds event) (told : s.forwarder.handle.isTold = true) :
    s.poll.pushed = s.pushed ∧ (s.result = none → s.poll.IsDecided (.ok ())) := by
  rcases holds.forwarding_or_settled with ⟨forwarding, undecided, -⟩ | ⟨decided, result, settled⟩
  · have stopped : s.forwarder.step? = some (s.forwarder.decide (.ok ())) := by
      simp only [step?, forwarding, forward?, heedQuit?, told, if_true, Option.some_or]
    simp only [poll, stopped, Option.map_some, Option.getD_some]
    refine ⟨pushed_moved rfl, fun _ => ⟨Stage.noConfusion, ?_⟩⟩
    simp only [moved, undecided, Option.none_or]
    rfl
  · refine ⟨?_, fun undecided => nomatch undecided.symm.trans settled.decided⟩
    unfold poll
    cases made : s.forwarder.step? with
    | none => rfl
    | some f => exact pushed_moved (sink_of_leave decided made).2

theorem Holds.carried (holds : s.Holds event) :
    (s.ledger.accepted.take s.pushed.length).map (kind.decode event) = s.pushed.map .ok ∧
      s.ledger.taken.length ≤ s.pushed.length + 1 := by
  have carried : ∃ front, front <+: s.ledger.taken ∧ s.ledger.taken.length ≤ front.length + 1 ∧
      front.map (kind.decode event) = s.pushed.map .ok := by
    rcases holds.forwarding_or_settled with ⟨-, -, held⟩ | ⟨-, result, settled⟩
    · exact carried_of_held held
    · exact settled.carried
  obtain ⟨front, inOrder, within, decoded⟩ := carried
  have lengths := congrArg List.length decoded
  rw [List.length_map, List.length_map] at lengths
  rw [← lengths, ← List.prefix_iff_eq_take.1 (inOrder.trans holds.fits.inOrder)]
  exact ⟨decoded, within⟩

theorem Holds.cause (holds : s.Holds event) (decided : s.result = some result) :
    (s.forwarder.handle.isTold = true ∧ result = .ok ()) ∨ s.Cause event result := by
  rcases holds.forwarding_or_settled with ⟨-, undecided, -⟩ | ⟨-, result', settled⟩
  · cases decided.symm.trans undecided
  · cases decided.symm.trans settled.decided
    exact settled.cause

/-- In every course of a feed, its forwarder and the forwarder's owner, the records of the first logs
accepted are pushed in order, with at most one more log taken. A step begun after the forwarder was
told to quit pushes nothing and ends well what was not decided. Every result decided otherwise has
its cause, and is what the handle shows in the end. -/
theorem forwarding_course (event : Abi.Event) (feedCapacity sinkCapacity : Nat) (acts : List Act) :
    let s : Scene kind := (start event feedCapacity sinkCapacity).run acts
    ((s.ledger.accepted.take s.pushed.length).map (kind.decode event) = s.pushed.map .ok ∧
      s.ledger.taken <+: s.ledger.accepted ∧ s.ledger.taken.length ≤ s.pushed.length + 1) ∧
    (s.forwarder.handle.isTold = true →
      s.poll.pushed = s.pushed ∧
      (s.result = none → ∀ more,
        (s.poll.run more).result = some (.ok ()) ∧ (s.poll.run more).pushed = s.pushed)) ∧
    (∀ result, s.result = some result →
      (s.forwarder.handle.isTold = true ∧ result = .ok ()) ∨ s.Cause event result) ∧
    (s.forwarder.stage = .gone →
      s.forwarder.handle.isRunning = false ∧
      s.result.bind Feed.failureOf = s.forwarder.handle.failure) := by
  intro s
  have holds : s.Holds event := (holds_start event feedCapacity sinkCapacity).run acts
  refine ⟨⟨holds.carried.1, holds.fits.inOrder, holds.carried.2⟩, ?_, ?_, ?_⟩
  · intro told
    obtain ⟨pushed, ends⟩ := holds.poll_told told
    refine ⟨pushed, fun undecided more => ?_⟩
    obtain ⟨still, rest⟩ := (ends undecided).run more
    exact ⟨still.2, rest.trans pushed⟩
  · exact fun result decided => holds.cause decided
  · intro gone
    have shown := holds.shown
    rw [gone] at shown
    exact shown

end Scene

end NameRights.Forwarder
