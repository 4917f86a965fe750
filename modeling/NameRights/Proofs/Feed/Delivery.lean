/- NameRights/Proofs/Feed/Delivery
   digest: A feed that is supplied and ends well delivers the same, read at the reader's pace or
   forwarded into a sink. -/

import NameRights.Proofs.Feed.CursorCourse
import NameRights.Proofs.Feed.ForwarderMoves
import NameRights.Proofs.Feed.Supply

set_option autoImplicit false
set_option relaxedAutoImplicit false

namespace NameRights

theorem Subscription.isRunning_of_verdict {s t : Subscription} {failure : Option ContractError}
    (verdict : s.verdict? = some (failure, t)) : t.isRunning = s.isRunning := by
  unfold verdict? at verdict
  split at verdict
  · cases verdict
    rfl
  · split at verdict
    · cases verdict
    · cases verdict
      rfl

private theorem Subscription.isRunning_of_join {s t : Subscription} (joined : s.join? = some t) :
    t.isRunning = s.isRunning := by
  unfold join? at joined
  split at joined
  · cases joined
  · cases joined
    rfl

theorem Channel.pop?_eq_some_iff {α : Type} {c d : Channel α} {a : α} :
    c.pop? = some (a, d) ↔ c.items = a :: d.items ∧ d = { c with items := d.items } := by
  unfold pop?
  cases c.items with
  | nil => simp
  | cons first rest =>
    simp only [Option.some.injEq, Prod.mk.injEq, List.cons.injEq]
    constructor
    · rintro ⟨rfl, rfl⟩
      exact ⟨⟨rfl, rfl⟩, rfl⟩
    · rintro ⟨⟨rfl, rfl⟩, same⟩
      exact ⟨rfl, same.symm⟩

def pursue {σ α : Type} (step? : σ → α → Option σ) (s : σ) (acts : List α) : σ :=
  acts.foldl (fun s act => (step? s act).getD s) s

theorem pursue_induction {σ α : Type} {step? : σ → α → Option σ} {P : σ → Prop}
    (kept : ∀ s act t, P s → step? s act = some t → P t) {s : σ} (begun : P s) (acts : List α) :
    P (pursue step? s acts) := by
  induction acts generalizing s with
  | nil => exact begun
  | cons act acts ih =>
    apply ih
    change P ((step? s act).getD s)
    cases made : step? s act with
    | none => exact begun
    | some t => exact kept s act t begun made

theorem Feed.capacity_enact (feed : Feed) (act : Act) :
    (feed.enact act).logs.capacity = feed.logs.capacity := by
  cases act with
  | offer log =>
    rcases Ledger.offer_cases feed.logs log with accepted | ⟨-, refused⟩
    · simp only [enact, accepted, Channel.push]
    · simp only [enact, refused]
  | letGo => rfl
  | exit result => rfl

theorem Feed.isTold_enact (feed : Feed) (act : Act) :
    (feed.enact act).subscription.isTold = feed.subscription.isTold := by
  cases act with
  | offer log => rfl
  | letGo => rfl
  | exit result => exact Subscription.isTold_exit _ _

private theorem Feed.Ledger.accepted_note_of_unattached {l : Ledger} {feed : Feed}
    (gone : feed.logs.hasReceiver = false) (act : Act) :
    (l.note feed act).accepted = l.accepted := by
  cases act with
  | offer log =>
    have refused : (feed.logs.offer log).1 ≠ .accepted := by
      simp [Channel.offer, gone]
    simp only [note, if_neg refused]
  | letGo => rfl
  | exit result =>
    simp only [note]
    split <;> rfl

namespace Cursor

variable {kind : EventKind} {c d : Cursor kind} {answer : Bool}

theorem heed_cases (c : Cursor kind) : c.heed = c ∨
    c.phase = .active ∧ c.heed.phase = .draining ∧ c.heed.feed.logs = c.feed.logs ∧
      c.heed.feed.subscription.isRunning = c.feed.subscription.isRunning := by
  unfold heed
  split
  · rename_i active
    split
    · rename_i failure subscription verdict
      exact Or.inr ⟨active, rfl, rfl, Subscription.isRunning_of_verdict verdict⟩
    · exact Or.inl rfl
  · exact Or.inl rfl
  · exact Or.inl rfl
  · exact Or.inl rfl

private theorem readQueued?_cases (attempted : c.readQueued? = some (answer, d)) :
    (d.phase = .active → c.phase = .active) ∧
      ∃ log rest, c.feed.logs.items = log :: rest ∧
        d.feed = { c.feed with logs := { c.feed.logs with items := rest } } := by
  unfold readQueued? at attempted
  obtain ⟨⟨log, logs⟩, popped, made⟩ := Option.map_eq_some_iff.1 attempted
  obtain ⟨items, shape⟩ := Channel.pop?_eq_some_iff.1 popped
  simp only [read] at made
  split at made
  · cases made
    exact ⟨id, log, logs.items, items, by rw [← shape]⟩
  · cases made
    exact ⟨Phase.noConfusion, log, logs.items, items, by rw [← shape]⟩

private theorem attempt?_cases (attempted : c.attempt? = some (answer, d)) :
    (d.phase = .active → c.phase = .active) ∧
      ((answer = false ∧ d.feed = c.feed) ∨
      ∃ log rest, c.feed.logs.items = log :: rest ∧
        d.feed = { c.feed with logs := { c.feed.logs with items := rest } }) := by
  unfold attempt? at attempted
  split at attempted
  · cases attempted
    exact ⟨id, Or.inl ⟨rfl, rfl⟩⟩
  · cases attempted
    exact ⟨id, Or.inl ⟨rfl, rfl⟩⟩
  · unfold drain at attempted
    cases queued : c.readQueued? with
    | none =>
      rw [queued] at attempted
      cases attempted
      exact ⟨Phase.noConfusion, Or.inl ⟨rfl, rfl⟩⟩
    | some result =>
      rw [queued] at attempted
      cases attempted
      obtain ⟨phase, taken⟩ := readQueued?_cases queued
      exact ⟨phase, Or.inr taken⟩
  · obtain ⟨phase, taken⟩ := readQueued?_cases attempted
    exact ⟨phase, Or.inr taken⟩

/-- A cursor whose feed is supplied with logs, and the logs that are yet to be sent. -/
structure Supplied (kind : EventKind) where
  scene : Scene kind
  rest : List Log

/-- What happens while a supplied feed is read: the supplier goes on, or a part of a call of the
reader is made. -/
inductive Supplied.Act where
  | supply
  | heed
  | attempt

namespace Supplied

def start (event : Abi.Event) (logs : List Log) (capacity : Nat) : Supplied kind :=
  ⟨.start event capacity, logs⟩

/-- Whether a call has been refused. The reader makes no call after that. -/
def isDone (s : Supplied kind) : Bool := s.scene.answers.any fun answer => !answer.1

/-- An act, if it can be done. To look at the verdict is one only if that changes the phase. -/
def step? (s : Supplied kind) : Act → Option (Supplied kind)
  | .supply =>
    (s.scene.cursor.feed.supply? s.rest).map fun (act, rest) => ⟨s.scene.step (.outside act), rest⟩
  | .heed =>
    if s.isDone || s.scene.cursor.heed.phase = s.scene.cursor.phase then none
    else some { s with scene := s.scene.step .heed }
  | .attempt =>
    if s.isDone then none
    else
      s.scene.cursor.attempt?.map fun (answer, c) => { s with scene := s.scene.answered answer c }

def run (s : Supplied kind) (acts : List Act) : Supplied kind := pursue step? s acts

def IsOver (s : Supplied kind) : Prop := ∀ act, s.step? act = none

/-- The records of the calls that were not refused. -/
def yielded (s : Supplied kind) : List kind.Record :=
  s.scene.answers.filterMap fun answer => if answer.1 then answer.2 else none

def left (s : Supplied kind) : Nat :=
  s.scene.cursor.feed.load s.rest + (decide (s.scene.cursor.phase = .active)).toNat +
    (!s.isDone).toNat

structure Holds (event : Abi.Event) (logs : List Log) (s : Supplied kind) : Prop where
  scene : s.scene.Holds event
  room : 0 < s.scene.cursor.feed.logs.capacity
  sent : s.scene.ledger.accepted ++ s.rest = logs
  sender : s.rest ≠ [] → s.scene.cursor.feed.logs.hasSender = true
  ended : ∀ k result, s.scene.ledger.ended = some (k, result) → k = logs.length ∧ result = .ok ()

variable {event : Abi.Event} {logs : List Log} {s t : Supplied kind} {act : Act}

theorem holds_start (event : Abi.Event) (logs : List Log) (capacity : Nat) :
    (start event logs (capacity + 1) : Supplied kind).Holds event logs :=
  ⟨Scene.holds_start event _, Nat.succ_pos capacity, rfl, fun _ => rfl,
    fun _ _ none => (nomatch none)⟩

theorem left_step (made : s.step? act = some t) : t.left < s.left := by
  cases act with
  | supply =>
    obtain ⟨⟨act, rest⟩, supplied, rfl⟩ := Option.map_eq_some_iff.1 made
    have less := Feed.load_supply supplied
    change (s.scene.cursor.feed.enact act).load rest +
      (decide (s.scene.cursor.phase = .active)).toNat + (!s.isDone).toNat < s.left
    unfold left
    omega
  | heed =>
    simp only [step?] at made
    split at made
    · cases made
    · rename_i changed
      cases made
      rcases heed_cases s.scene.cursor with same | ⟨active, draining, queue, running⟩
      · simp [same] at changed
      · simp only [left, isDone, Scene.step, Feed.load, queue, running, active, draining,
          decide_true, reduceCtorEq, decide_false, Bool.toNat_true, Bool.toNat_false]
        omega
  | attempt =>
    simp only [step?] at made
    split at made
    · cases made
    · rename_i going
      have going : s.isDone = false := by simpa using going
      obtain ⟨⟨answer, c⟩, attempted, rfl⟩ := Option.map_eq_some_iff.1 made
      obtain ⟨phase, taken⟩ := attempt?_cases attempted
      have active : (decide (c.phase = .active)).toNat ≤
          (decide (s.scene.cursor.phase = .active)).toNat := by
        by_cases still : c.phase = .active
        · simp only [still, phase still, Nat.le_refl]
        · simp [still]
      rcases taken with ⟨rfl, feed⟩ | ⟨log, rest, items, feed⟩
      · have done : isDone { s with scene := s.scene.answered false c } = true := by
          simp [isDone, Scene.answered]
        change c.feed.load s.rest + (decide (c.phase = .active)).toNat +
          (!isDone { s with scene := s.scene.answered false c }).toNat < s.left
        simp only [left, done, going, feed, Bool.not_true, Bool.not_false, Bool.toNat_true,
          Bool.toNat_false]
        omega
      · have bit := Bool.toNat_le (!isDone { s with scene := s.scene.answered answer c })
        change c.feed.load s.rest + (decide (c.phase = .active)).toNat +
          (!isDone { s with scene := s.scene.answered answer c }).toNat < s.left
        simp only [left, going, feed, Feed.load, items, List.length_cons]
        omega

private theorem Holds.step (holds : s.Holds event logs) (made : s.step? act = some t) :
    t.Holds event logs := by
  obtain ⟨scene, room, sent, sender, ended⟩ := holds
  cases act with
  | supply =>
    obtain ⟨⟨act, rest⟩, supplied, rfl⟩ := Option.map_eq_some_iff.1 made
    have kept := Feed.accepted_supply (l := s.scene.ledger) supplied sender fun _ => scene.held
    refine ⟨scene.outside act, ?_, kept.trans sent, Feed.sender_supply supplied sender, ?_⟩
    · exact (Feed.capacity_enact _ act).symm ▸ room
    · intro k result happened
      rcases Feed.ended_supply (l := s.scene.ledger) supplied with same | ⟨none, -, last⟩
      · exact ended k result (same.symm.trans happened)
      · cases last.symm.trans happened
        rw [none, List.append_nil] at sent
        exact ⟨congrArg List.length sent, rfl⟩
  | heed =>
    simp only [step?] at made
    split at made
    · cases made
    · cases made
      have queue : s.scene.cursor.heed.feed.logs = s.scene.cursor.feed.logs := by
        rcases heed_cases s.scene.cursor with same | ⟨-, -, queue, -⟩
        · rw [same]
        · exact queue
      refine ⟨scene.heed, ?_, sent, ?_, ended⟩
      · simp only [Scene.step, queue]
        exact room
      · simp only [Scene.step, queue]
        exact sender
  | attempt =>
    simp only [step?] at made
    split at made
    · cases made
    · obtain ⟨⟨answer, c⟩, attempted, rfl⟩ := Option.map_eq_some_iff.1 made
      have next : (s.scene.answered answer c).Holds event := by
        have next := scene.attempt
        simp only [Scene.step, attempted] at next
        exact next
      have queue : c.feed.logs.capacity = s.scene.cursor.feed.logs.capacity ∧
          c.feed.logs.hasSender = s.scene.cursor.feed.logs.hasSender := by
        rcases (attempt?_cases attempted).2 with ⟨-, feed⟩ | ⟨log, rest, -, feed⟩
        · rw [feed]
          exact ⟨rfl, rfl⟩
        · rw [feed]
          exact ⟨rfl, rfl⟩
      refine ⟨next, queue.1.symm ▸ room, ?_, ?_, ?_⟩
      · simp only [Scene.answered, Feed.Ledger.accepted_watch]
        exact sent
      · intro more
        exact queue.2.trans (sender more)
      · simp only [Scene.answered, Feed.Ledger.ended_watch]
        exact ended

theorem Holds.run (holds : s.Holds event logs) (acts : List Act) :
    (s.run acts).Holds event logs :=
  pursue_induction (fun _ _ _ holds made => Holds.step holds made) holds acts

/-- As long as no call is refused, something can be done: a queued log is read, or the producer's
end is noticed, or the supplier goes on. -/
theorem Holds.isDone_of_over (holds : s.Holds event logs) (finished : s.IsOver) :
    s.isDone = true := by
  cases going : s.isDone with
  | true => rfl
  | false =>
    have waits : s.scene.cursor.attempt? = none := by
      have stuck := finished .attempt
      simpa [step?, going] using stuck
    have unheeded : s.scene.cursor.heed.phase = s.scene.cursor.phase := by
      have stuck := finished .heed
      simpa [step?, going] using stuck
    have unsupplied : s.scene.cursor.feed.supply? s.rest = none := by
      have stuck := finished .supply
      simpa only [step?, Option.map_eq_none_iff] using stuck
    have active : s.scene.cursor.phase = .active := by
      cases phase : s.scene.cursor.phase with
      | active => rfl
      | draining => simp [attempt?, phase] at waits
      | exhausted => simp [attempt?, phase] at waits
      | failed => simp [attempt?, phase] at waits
    have empty : s.scene.cursor.feed.logs.items = [] := by
      apply Channel.pop?_eq_none_iff.1
      simpa [attempt?, active, readQueued?] using waits
    obtain ⟨-, -, stopped⟩ :=
      Feed.supply?_eq_none holds.scene.held holds.room holds.sender empty unsupplied
    have open_ : s.scene.cursor.feed.subscription.verdict? = none := by
      cases verdict : s.scene.cursor.feed.subscription.verdict? with
      | none => rfl
      | some entry => simp [heed, active, verdict] at unheeded
    have running := (Subscription.verdict?_eq_none_iff.1 open_).2
    cases stopped.symm.trans running

/-- A reader whose call was refused has been given what the logs come to. -/
theorem Holds.delivers (holds : s.Holds event logs) (done : s.isDone = true) :
    kind.readThrough event logs = (s.yielded, s.scene.cursor.failure) ∧
      (s.scene.cursor.failure = none → s.scene.cursor.feedFailure = none) := by
  obtain ⟨records, refusals, answers, refused, decoded, reason⟩ := holds.scene.told
  have yielded : s.yielded = records := by
    have none : refusals.filterMap (fun a => if a.1 then a.2 else Option.none) = [] := by
      rw [List.filterMap_eq_nil_iff]
      intro a member
      simp [refused a member]
    rw [Supplied.yielded, answers, List.filterMap_append, none, List.append_nil, List.filterMap_map]
    exact List.filterMap_some
  have some : refusals ≠ [] := by
    rintro rfl
    simp [isDone, answers] at done
  have sent := holds.sent
  rcases (reason some).2 with ⟨log, e, next, broken, failure, -⟩ |
    ⟨sound, k, result, ended, all, rest⟩
  · refine ⟨?_, fun none => nomatch failure.symm.trans none⟩
    rw [yielded, failure, EventKind.readThrough_until ⟨s.rest, sent⟩ decoded next broken]
  · obtain ⟨rfl, rfl⟩ := holds.ended k result ended
    have count := congrArg List.length sent
    rw [List.length_append] at count
    have accepted : s.scene.ledger.accepted = logs := by
      have early := holds.scene.fits.earlier _ _ ended
      have none : s.rest = [] := List.eq_nil_of_length_eq_zero (by omega)
      rwa [none, List.append_nil] at sent
    rw [accepted, List.take_of_length_le all] at decoded
    refine ⟨?_, fun _ => rest⟩
    rw [yielded, sound, EventKind.readThrough_all decoded]

end Supplied

end Cursor

namespace Forwarder

variable {kind : EventKind} {f g : Forwarder kind}

/-- What a part of a step leaves as it is. -/
structure Keeps (f g : Forwarder kind) : Prop where
  feedRoom : g.feed.logs.capacity = f.feed.logs.capacity
  sender : g.feed.logs.hasSender = f.feed.logs.hasSender
  attached : g.feed.logs.hasReceiver = true → f.feed.logs.hasReceiver = true
  sinkRoom : g.sink.capacity = f.sink.capacity
  heard : g.sink.hasReceiver = f.sink.hasReceiver
  items : f.sink.items <+: g.sink.items
  told : g.handle.isTold = f.handle.isTold
  running : g.feed.subscription.isRunning = f.feed.subscription.isRunning
  telling : ∀ result, g.stage = .stopping result → g.feed.subscription.isTold = true

theorem keeps_of_part {part : Part} (made : f.part? part = some g) : f.Keeps g := by
  by_cases forwarding : f.stage = .forwarding
  · have still {P : Prop} {result : Except ContractError Unit}
        (stopping : f.stage = .stopping result) : P := nomatch forwarding.symm.trans stopping
    cases moves_of_part forwarding made with
    | quit told => exact ⟨rfl, rfl, id, rfl, rfl, List.prefix_rfl, rfl, rfl, fun _ _ => rfl⟩
    | fail fed verdict =>
      have running := Subscription.isRunning_of_verdict verdict
      exact ⟨rfl, rfl, id, rfl, rfl, List.prefix_rfl, rfl, running, fun _ _ => rfl⟩
    | finish fed verdict =>
      exact ⟨rfl, rfl, id, rfl, rfl, List.prefix_rfl, rfl, rfl, fun _ => still⟩
    | push held heard room =>
      exact ⟨rfl, rfl, id, rfl, rfl, List.prefix_append _ _, rfl, rfl, fun _ => still⟩
    | unheard held gone =>
      exact ⟨rfl, rfl, id, rfl, rfl, List.prefix_rfl, rfl, rfl, fun _ _ => rfl⟩
    | take free popped decoded =>
      obtain ⟨-, shape⟩ := Channel.pop?_eq_some_iff.1 popped
      rw [shape]
      exact ⟨rfl, rfl, id, rfl, rfl, List.prefix_rfl, rfl, rfl, fun _ => still⟩
    | refuse free popped broken =>
      obtain ⟨-, shape⟩ := Channel.pop?_eq_some_iff.1 popped
      rw [shape]
      exact ⟨rfl, rfl, id, rfl, rfl, List.prefix_rfl, rfl, rfl, fun _ _ => rfl⟩
    | dry free empty closed verdict =>
      have running := Subscription.isRunning_of_verdict verdict
      exact ⟨rfl, rfl, id, rfl, rfl, List.prefix_rfl, rfl, running, fun _ _ => rfl⟩
  · rcases leaves_of_part forwarding made with ⟨result, subscription, -, joined, rfl⟩ |
      ⟨result, -, rfl⟩
    · exact ⟨rfl, rfl, fun held => (nomatch held), rfl, rfl, List.prefix_rfl, rfl,
        Subscription.isRunning_of_join joined, fun _ stage => (nomatch stage)⟩
    · exact ⟨rfl, rfl, id, rfl, rfl, List.prefix_rfl, Subscription.isTold_exit _ _, rfl,
        fun _ stage => (nomatch stage)⟩

def Stage.left : Stage → Nat
  | .forwarding => 3
  | .stopping _ => 2
  | .leaving _ => 1
  | .gone => 0

/-- The weight of what a forwarder has to do once it has the logs. -/
def load (f : Forwarder kind) : Nat :=
  2 * f.held.toList.length + f.sink.items.length + f.isFed.toNat + f.stage.left

private theorem load_part {part : Part} (rest : List Log) (made : f.part? part = some g) :
    g.feed.load rest + g.load < f.feed.load rest + f.load := by
  by_cases forwarding : f.stage = .forwarding
  · cases moves_of_part forwarding made with
    | quit told =>
      simp only [Feed.load, load, decide, Subscription.tell, Stage.left, forwarding]
      omega
    | fail fed verdict =>
      have running := Subscription.isRunning_of_verdict verdict
      simp only [Feed.load, load, decide, Subscription.tell, Stage.left, forwarding, running]
      omega
    | finish fed verdict =>
      have running := Subscription.isRunning_of_verdict verdict
      simp only [Feed.load, load, fed, Bool.toNat_true, Bool.toNat_false]
      omega
    | push held heard room =>
      simp only [Feed.load, load, held, Channel.push, Option.toList_some, Option.toList_none,
        List.length_append, List.length_singleton, List.length_nil]
      omega
    | unheard held gone =>
      simp only [Feed.load, load, decide, Subscription.tell, Stage.left, forwarding]
      omega
    | take free popped decoded =>
      obtain ⟨items, shape⟩ := Channel.pop?_eq_some_iff.1 popped
      rw [shape]
      simp only [Feed.load, load, items, free, Option.toList_some, Option.toList_none,
        List.length_nil, List.length_cons]
      omega
    | refuse free popped broken =>
      obtain ⟨items, shape⟩ := Channel.pop?_eq_some_iff.1 popped
      rw [shape]
      simp only [Feed.load, load, decide, Subscription.tell, Stage.left, forwarding, items,
        List.length_cons]
      omega
    | dry free empty closed verdict =>
      have running := Subscription.isRunning_of_verdict verdict
      simp only [Feed.load, load, decide, Subscription.tell, Stage.left, forwarding, running]
      omega
  · rcases leaves_of_part forwarding made with ⟨result, subscription, stage, joined, rfl⟩ |
      ⟨result, stage, rfl⟩
    · have running := Subscription.isRunning_of_join joined
      simp only [Feed.load, load, stage, Stage.left, Channel.dropReceiver, Channel.closeSender,
        running, List.length_nil, Option.toList_none]
      omega
    · simp only [load, stage, Stage.left]
      omega

/-- A forwarder whose feed is supplied with logs, the logs that are yet to be sent, and the records
that have been received from the sink. -/
structure Supplied (kind : EventKind) where
  scene : Scene kind
  rest : List Log
  received : List kind.Record

/-- What happens while a supplied feed is forwarded: the supplier goes on, or the producer ends
because it was told to, or a record is received, or a part of a step is made. -/
inductive Supplied.Act where
  | supply
  | obey
  | receive
  | part (part : Part)

namespace Supplied

def start (event : Abi.Event) (logs : List Log) (feedCapacity sinkCapacity : Nat) : Supplied kind :=
  ⟨.start event feedCapacity sinkCapacity, logs, []⟩

def step? (s : Supplied kind) : Act → Option (Supplied kind)
  | .supply =>
    (s.scene.forwarder.feed.supply? s.rest).map fun (act, rest) =>
      { s with scene := s.scene.step (.outside act), rest }
  | .obey =>
    if s.scene.forwarder.feed.subscription.isTold && s.scene.forwarder.feed.subscription.isRunning
    then some { s with scene := s.scene.step (.outside (.exit (.ok ()))) }
    else none
  | .receive =>
    s.scene.forwarder.sink.pop?.map fun (record, sink) =>
      { s with scene := s.scene.withSink sink, received := s.received ++ [record] }
  | .part part => (s.scene.forwarder.part? part).map fun f => { s with scene := s.scene.moved f }

def run (s : Supplied kind) (acts : List Act) : Supplied kind := pursue step? s acts

def IsOver (s : Supplied kind) : Prop := ∀ act, s.step? act = none

def left (s : Supplied kind) : Nat := s.scene.forwarder.feed.load s.rest + s.scene.forwarder.load

structure Holds (event : Abi.Event) (logs : List Log) (s : Supplied kind) : Prop where
  scene : s.scene.Holds event
  feedRoom : 0 < s.scene.forwarder.feed.logs.capacity
  sinkRoom : 0 < s.scene.forwarder.sink.capacity
  heard : s.scene.forwarder.sink.hasReceiver = true
  untold : s.scene.forwarder.handle.isTold = false
  telling : ∀ result, s.scene.forwarder.stage = .stopping result →
    s.scene.forwarder.feed.subscription.isTold = true
  sent : (s.scene.forwarder.feed.logs.hasReceiver = true ∨
    ∀ e, s.scene.result ≠ some (.error e)) → s.scene.ledger.accepted ++ s.rest = logs
  inOrder : s.scene.ledger.accepted <+: logs
  sender : s.rest ≠ [] → s.scene.forwarder.feed.logs.hasSender = true
  ended : ∀ k e, s.scene.ledger.ended ≠ some (k, .error e)
  received : s.received ++ s.scene.forwarder.sink.items = s.scene.pushed

variable {event : Abi.Event} {logs : List Log} {s t : Supplied kind} {act : Act}

private theorem holds_start (event : Abi.Event) (logs : List Log) (feedCapacity sinkCapacity : Nat)
    :
    (start event logs (feedCapacity + 1) (sinkCapacity + 1) : Supplied kind).Holds event logs :=
  ⟨Scene.holds_start event _ _, Nat.succ_pos _, Nat.succ_pos _, rfl, rfl,
    fun _ stage => (nomatch stage), fun _ => rfl, List.nil_prefix, fun _ => rfl,
    fun _ _ none => (nomatch none), rfl⟩

private theorem left_step (made : s.step? act = some t) : t.left < s.left := by
  cases act with
  | supply =>
    obtain ⟨⟨act, rest⟩, supplied, rfl⟩ := Option.map_eq_some_iff.1 made
    have less := Feed.load_supply supplied
    change (s.scene.forwarder.feed.enact act).load rest + s.scene.forwarder.load < s.left
    unfold left
    omega
  | obey =>
    simp only [step?] at made
    split at made
    · rename_i due
      cases made
      have running := (Bool.and_eq_true_iff.1 due).2
      have stopped := Subscription.isRunning_exit s.scene.forwarder.feed.subscription (.ok ())
      simp only [left, Scene.step, Feed.enact, Feed.load, load, running, stopped, Bool.toNat_true,
        Bool.toNat_false]
      omega
    · cases made
  | receive =>
    obtain ⟨⟨record, sink⟩, popped, rfl⟩ := Option.map_eq_some_iff.1 made
    have items := (Channel.pop?_eq_some_iff.1 popped).1
    simp only [left, Scene.withSink, load, items, List.length_cons]
    omega
  | part part =>
    obtain ⟨f, moved, rfl⟩ := Option.map_eq_some_iff.1 made
    exact load_part s.rest moved

private theorem Holds.attached (holds : s.Holds event logs)
    (unbroken : ∀ e, s.scene.result ≠ some (.error e)) (more : s.rest ≠ []) :
    s.scene.forwarder.feed.logs.hasReceiver = true := by
  cases decided : s.scene.result with
  | none =>
    have standing := holds.scene.standing
    rw [holds.scene.result_eq_none_iff.1 decided] at standing
    exact standing.2.1
  | some result =>
    cases result with
    | error e => exact absurd decided (unbroken e)
    | ok u =>
      rcases holds.scene.cause decided with ⟨told, -⟩ | ⟨-, closed, -⟩
      · cases holds.untold.symm.trans told
      · cases closed.symm.trans (holds.sender more)

private theorem Holds.supply (holds : s.Holds event logs) {act : Feed.Act} {rest : List Log}
    (supplied : s.scene.forwarder.feed.supply? s.rest = some (act, rest)) :
    Holds event logs { s with scene := s.scene.step (.outside act), rest } := by
  have sent (attached : s.rest ≠ [] → s.scene.forwarder.feed.logs.hasReceiver = true)
      (before : s.scene.ledger.accepted ++ s.rest = logs) :
      (s.scene.ledger.note s.scene.forwarder.feed act).accepted ++ rest = logs :=
    (Feed.accepted_supply supplied holds.sender attached).trans before
  refine ⟨holds.scene.outside act, ?_, holds.sinkRoom, holds.heard, holds.untold, ?_, ?_, ?_,
    Feed.sender_supply supplied holds.sender, ?_, holds.received⟩
  · exact (Feed.capacity_enact _ act).symm ▸ holds.feedRoom
  · intro result stopping
    exact (Feed.isTold_enact _ act).trans (holds.telling result stopping)
  · rintro (attached | unbroken)
    · have attached := (Feed.hasReceiver_enact _ act).symm.trans attached
      exact sent (fun _ => attached) (holds.sent (Or.inl attached))
    · exact sent (holds.attached unbroken) (holds.sent (Or.inr unbroken))
  · cases attached : s.scene.forwarder.feed.logs.hasReceiver with
    | true => exact ⟨rest, sent (fun _ => attached) (holds.sent (Or.inl attached))⟩
    | false => exact (Feed.Ledger.accepted_note_of_unattached attached act).symm ▸ holds.inOrder
  · intro k e broken
    rcases Feed.ended_supply (l := s.scene.ledger) supplied with same | ⟨-, -, well⟩
    · exact holds.ended k e (same.symm.trans broken)
    · cases well.symm.trans broken

private theorem Holds.obey (holds : s.Holds event logs) :
    Holds event logs { s with scene := s.scene.step (.outside (.exit (.ok ()))) } := by
  have accepted : (s.scene.ledger.note s.scene.forwarder.feed (.exit (.ok ()))).accepted =
      s.scene.ledger.accepted := by
    simp only [Feed.Ledger.note]
    split <;> rfl
  refine ⟨holds.scene.outside _, holds.feedRoom, holds.sinkRoom, holds.heard, holds.untold, ?_, ?_,
    ?_, holds.sender, ?_, holds.received⟩
  · intro result stopping
    exact (Feed.isTold_enact _ _).trans (holds.telling result stopping)
  · intro going
    exact (congrArg (· ++ s.rest) accepted).trans (holds.sent going)
  · exact accepted.symm ▸ holds.inOrder
  · intro k e broken
    simp only [Scene.step, Feed.Ledger.note] at broken
    split at broken
    · cases broken
    · exact holds.ended k e broken

private theorem Holds.receive (holds : s.Holds event logs) {record : kind.Record}
    {sink : Channel kind.Record} (popped : s.scene.forwarder.sink.pop? = some (record, sink)) :
    Holds event logs
      { s with scene := s.scene.withSink sink, received := s.received ++ [record] } := by
  obtain ⟨items, shape⟩ := Channel.pop?_eq_some_iff.1 popped
  have heard : sink.hasReceiver = s.scene.forwarder.sink.hasReceiver := by rw [shape]
  have room : sink.capacity = s.scene.forwarder.sink.capacity := by rw [shape]
  refine ⟨holds.scene.withSink heard.trans, holds.feedRoom, room.symm ▸ holds.sinkRoom,
    heard.trans holds.heard, holds.untold, holds.telling, holds.sent, holds.inOrder, holds.sender,
    holds.ended, ?_⟩
  change (s.received ++ [record]) ++ sink.items = s.scene.pushed
  rw [← holds.received, items, List.append_assoc, List.singleton_append]

private theorem Holds.part (holds : s.Holds event logs) {part : Part} {f : Forwarder kind}
    (made : s.scene.forwarder.part? part = some f) :
    Holds event logs { s with scene := s.scene.moved f } := by
  have keeps := keeps_of_part made
  have scene : (s.scene.moved f).Holds event := by
    have scene := holds.scene.part part
    simp only [Scene.step, made] at scene
    exact scene
  refine ⟨scene, keeps.feedRoom.symm ▸ holds.feedRoom, keeps.sinkRoom.symm ▸ holds.sinkRoom,
    keeps.heard.trans holds.heard, keeps.told.trans holds.untold, keeps.telling, ?_, ?_, ?_, ?_, ?_⟩
  · intro going
    simp only [Scene.moved, Feed.Ledger.accepted_watch]
    apply holds.sent
    rcases going with attached | unbroken
    · exact Or.inl (keeps.attached attached)
    · refine Or.inr fun e broken => unbroken e ?_
      simp only [Scene.moved, broken, Option.some_or]
  · simp only [Scene.moved, Feed.Ledger.accepted_watch]
    exact holds.inOrder
  · intro more
    exact keeps.sender.trans (holds.sender more)
  · simp only [Scene.moved, Feed.Ledger.ended_watch]
    exact holds.ended
  · obtain ⟨new, items⟩ := keeps.items
    change s.received ++ f.sink.items =
      s.scene.pushed ++ f.sink.items.drop s.scene.forwarder.sink.items.length
    rw [← holds.received, ← items, List.drop_left, List.append_assoc]

private theorem Holds.step (holds : s.Holds event logs) (made : s.step? act = some t) :
    t.Holds event logs := by
  cases act with
  | supply =>
    obtain ⟨⟨act, rest⟩, supplied, rfl⟩ := Option.map_eq_some_iff.1 made
    exact holds.supply supplied
  | obey =>
    simp only [step?] at made
    split at made
    · cases made
      exact holds.obey
    · cases made
  | receive =>
    obtain ⟨⟨record, sink⟩, popped, rfl⟩ := Option.map_eq_some_iff.1 made
    exact holds.receive popped
  | part part =>
    obtain ⟨f, moved, rfl⟩ := Option.map_eq_some_iff.1 made
    exact holds.part moved

private theorem Holds.run (holds : s.Holds event logs) (acts : List Act) :
    (s.run acts).Holds event logs :=
  pursue_induction (fun _ _ _ holds made => Holds.step holds made) holds acts

private theorem items_of_over (finished : s.IsOver) : s.scene.forwarder.sink.items = [] := by
  have dry := finished .receive
  exact Channel.pop?_eq_none_iff.1 (Option.map_eq_none_iff.1 dry)

/-- As long as the forwarder is there, something can be done: it steps, or the supplier goes on, or
the producer does what it is told, or the sink is drained. -/
private theorem Holds.gone_of_over (holds : s.Holds event logs) (finished : s.IsOver) :
    s.scene.forwarder.stage = .gone := by
  have parts (part : Part) : s.scene.forwarder.part? part = none := by
    have stuck := finished (.part part)
    exact Option.map_eq_none_iff.1 stuck
  have still : s.scene.forwarder.step? = none := by
    simp only [step?_eq_parts, parts, Option.none_or]
  cases stage : s.scene.forwarder.stage with
  | forwarding =>
    obtain ⟨-, -, stuck⟩ := (Forwarder.step?_eq_none_iff stage).1 still
    rcases stuck with ⟨-, empty, waits⟩ | ⟨-, -, full⟩
    · have standing := holds.scene.standing
      rw [stage] at standing
      have unsupplied := finished .supply
      simp only [step?, Option.map_eq_none_iff] at unsupplied
      obtain ⟨-, closed, stopped⟩ :=
        Feed.supply?_eq_none standing.2.1 holds.feedRoom holds.sender empty unsupplied
      rcases waits with held | open_
      · cases closed.symm.trans held
      · cases stopped.symm.trans (Subscription.verdict?_eq_none_iff.1 open_).2
    · have room : s.scene.forwarder.sink.hasRoom = true := by
        simp only [Channel.hasRoom, items_of_over finished, List.length_nil, decide_eq_true_eq]
        exact holds.sinkRoom
      cases full.symm.trans room
  | stopping result =>
    have told := holds.telling result stage
    have running : s.scene.forwarder.feed.subscription.isRunning = true := by
      simp only [Forwarder.step?, stage, Option.map_eq_none_iff] at still
      unfold Subscription.join? at still
      split at still
      · assumption
      · cases still
    have disobeyed := finished .obey
    simp [step?, told, running] at disobeyed
  | leaving result => simp [Forwarder.step?, stage] at still
  | gone => rfl

private theorem Holds.delivers (holds : s.Holds event logs) (finished : s.IsOver) :
    ∃ result, s.scene.result = some result ∧ s.scene.forwarder.handle.isRunning = false ∧
      s.scene.forwarder.handle.failure = Feed.failureOf result ∧
      kind.readThrough event logs = (s.received, Feed.failureOf result) := by
  have gone := holds.gone_of_over finished
  have shown := holds.scene.shown
  rw [gone] at shown
  obtain ⟨stopped, failure⟩ := shown
  have received : s.received = s.scene.pushed := by
    have received := holds.received
    rwa [items_of_over finished, List.append_nil] at received
  have decoded := holds.scene.carried.1
  cases decided : s.scene.result with
  | none =>
    have forwarding := holds.scene.result_eq_none_iff.1 decided
    cases gone.symm.trans forwarding
  | some result =>
    rw [decided] at failure
    refine ⟨result, rfl, stopped, failure.symm, ?_⟩
    rw [received]
    rcases holds.scene.cause decided with ⟨told, -⟩ | cause
    · cases holds.untold.symm.trans told
    · cases result with
      | ok u =>
        obtain ⟨-, closed, all⟩ := cause
        have sent := holds.sent (Or.inr fun e broken => nomatch decided.symm.trans broken)
        have none : s.rest = [] :=
          Classical.byContradiction fun more => nomatch closed.symm.trans (holds.sender more)
        rw [none, List.append_nil] at sent
        have whole : logs.length ≤ s.scene.pushed.length := Nat.le_of_eq (by rw [all, sent])
        rw [sent, List.take_of_length_le whole] at decoded
        exact EventKind.readThrough_all decoded
      | error e =>
        rcases cause with ⟨-, unheard⟩ | ⟨log, next, broken⟩ | ⟨k, ended⟩
        · cases unheard.symm.trans holds.heard
        · exact EventKind.readThrough_until holds.inOrder decoded next broken
        · exact absurd ended (holds.ended k e)

end Supplied

end Forwarder

/-- Two feeds of any room are supplied with the same logs and end well; one is read until a call is
refused, one is forwarded into a sink that is drained. Whatever is done lessens what is left to do,
and in every order of what can be done both come to an end: with the same records, which are those
up to the first log that is none, and with the same error, which is that log's, or without one. -/
theorem delivery_course {kind : EventKind} (event : Abi.Event) (logs : List Log)
    (readCapacity feedCapacity sinkCapacity : Nat) (reads : List Cursor.Supplied.Act)
    (pushes : List Forwarder.Supplied.Act) :
    let s : Cursor.Supplied kind := (Cursor.Supplied.start event logs (readCapacity + 1)).run reads
    let t : Forwarder.Supplied kind :=
      (Forwarder.Supplied.start event logs (feedCapacity + 1) (sinkCapacity + 1)).run pushes
    (∀ act after, s.step? act = some after → after.left < s.left) ∧
    (∀ act after, t.step? act = some after → after.left < t.left) ∧
    (s.IsOver → s.isDone = true) ∧
    (t.IsOver → t.scene.forwarder.stage = .gone ∧ t.scene.forwarder.handle.isRunning = false) ∧
    (s.isDone = true → t.IsOver →
      s.yielded = t.received ∧
      kind.readThrough event logs = (s.yielded, s.scene.cursor.failure) ∧
      (∀ e, s.scene.cursor.failure = some e ↔ t.scene.result = some (.error e)) ∧
      t.scene.forwarder.handle.failure = s.scene.cursor.failure ∧
      (s.scene.cursor.failure = none →
        t.scene.result = some (.ok ()) ∧ s.scene.cursor.feedFailure = none)) := by
  intro s t
  have read : s.Holds event logs := (Cursor.Supplied.holds_start event logs readCapacity).run reads
  have forwarded : t.Holds event logs :=
    (Forwarder.Supplied.holds_start event logs feedCapacity sinkCapacity).run pushes
  refine ⟨fun _ _ => Cursor.Supplied.left_step, fun _ _ => Forwarder.Supplied.left_step,
    read.isDone_of_over, ?_, ?_⟩
  · intro finished
    obtain ⟨-, -, stopped, -⟩ := forwarded.delivers finished
    exact ⟨forwarded.gone_of_over finished, stopped⟩
  · intro done finished
    obtain ⟨through, quiet⟩ := read.delivers done
    obtain ⟨result, decided, -, shown, through'⟩ := forwarded.delivers finished
    obtain ⟨same, failure⟩ := Prod.mk.inj (through.symm.trans through')
    refine ⟨same, through, ?_, shown.trans failure.symm, ?_⟩
    · intro e
      rw [failure, decided]
      cases result <;> simp [Feed.failureOf]
    · intro none
      refine ⟨?_, quiet none⟩
      rw [failure] at none
      cases result with
      | ok u => exact decided
      | error e => cases none

end NameRights
