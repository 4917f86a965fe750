/- NameRights/Proofs/Node/PollingCourse
   digest: Whatever a node answers and a consumer does, the answers reach the consumer's queue in
   order, and the filter is forgotten once, after the last poll. -/

import NameRights.Node.Poller
import NameRights.Proofs.Feed.Reading

set_option autoImplicit false
set_option relaxedAutoImplicit false

namespace NameRights.Poller

variable {kind : EventKind}

/-- What happens while a node is polled for a tap: the poller takes a step, its rest is over, its
last request is answered, or the tap has a turn. -/
inductive Act where
  | step
  | wake
  | hear (reply : Reply)
  | turn (turn : Tap.Turn)

/-- A poller at work for a tap, with the history of the feed between them, the requests sent so far,
and what the answers to the polls were read as. -/
structure Scene (kind : EventKind) where
  poller : Poller
  tap : Tap kind
  ledger : Feed.Ledger
  asked : List Request
  heard : List (Except ContractError (List Log))

/-- All logs that were answered. -/
def answered (heard : List (Except ContractError (List Log))) : List Log :=
  heard.flatMap fun
    | .ok logs => logs
    | .error _ => []

private theorem answered_ok (batches : List (List Log)) :
    answered (batches.map .ok) = batches.flatten := by
  induction batches with
  | nil => rfl
  | cons logs batches ih => exact congrArg (logs ++ ·) ih

namespace Scene

def start (filter : String) (capacity : Nat) (sink : Option (Abi.Event × Nat)) : Scene kind :=
  ⟨.start filter, .start (.started capacity) sink, .blank, [], []⟩

/-- The scene after a move of the poller. What the poller adds to the queue has been accepted. -/
def moved (s : Scene kind) (poller : Poller) (feed : Feed) : Scene kind :=
  { s with poller
           tap := s.tap.withFeed feed
           ledger.accepted :=
             s.ledger.accepted ++ feed.logs.items.drop s.tap.feed.logs.items.length }

def step (s : Scene kind) : Act → Scene kind
  | .step =>
    match s.poller.step? s.tap.feed with
    | none => s
    | some (request, poller, feed) =>
      { s.moved poller feed with asked := s.asked ++ request.toList }
  | .wake =>
    match s.poller.wake? with
    | none => s
    | some (request, poller) => { s with poller, asked := s.asked ++ [request] }
  | .hear reply =>
    let (poller, feed) := s.poller.hear reply s.tap.feed
    match s.poller.phase with
    | .asking => { s.moved poller feed with heard := s.heard ++ [Node.readPoll reply] }
    | .forgetting result =>
      { s.moved poller feed with ledger := s.ledger.note s.tap.feed (.exit result) }
    | .resting | .delivering _ | .leaving _ | .gone => s.moved poller feed
  | .turn turn =>
    match s.tap.turn? turn with
    | none => s
    | some tap => { s with tap, ledger := s.ledger.watch s.tap.feed.logs tap.feed.logs }

def run (s : Scene kind) (acts : List Act) : Scene kind := acts.foldl step s

/-- The result of the polling, once it is decided. -/
def result? (s : Scene kind) : Option (Except ContractError Unit) :=
  match s.poller.phase with
  | .leaving result | .forgetting result => some result
  | .gone => s.ledger.ended.map Prod.snd
  | .resting | .asking | .delivering _ => none

/-- Only polls of a filter, and then the given requests. -/
def Asked (s : Scene kind) (filter : String) (last : List Request) : Prop :=
  ∃ n, s.asked = List.replicate n (Node.pollRequest filter) ++ last

/-- Why the polling ends: it was told to, or nobody receives; or a poll has failed, and all logs
answered before it are in the queue or were taken from there. -/
def Cause (s : Scene kind) : Except ContractError Unit → Prop
  | .ok () =>
    (s.tap.feed.subscription.isTold = true ∨ s.tap.feed.logs.hasReceiver = false) ∧
      ∃ batches : List (List Log), s.heard = batches.map .ok ∧
        s.ledger.accepted <+: batches.flatten
  | .error e =>
    ∃ batches : List (List Log), s.heard = batches.map .ok ++ [.error e] ∧
      s.ledger.accepted = batches.flatten

/-- While there is no result, no poll has failed, and all that was answered is accepted but for the
logs at hand. -/
structure Polling (s : Scene kind) (filter : String) (rest : List Log) (pending : Nat) : Prop where
  unended : s.ledger.ended = none
  sender : s.tap.feed.logs.hasSender = true
  answered : ∃ batches : List (List Log), s.heard = batches.map .ok ∧
    batches.flatten = s.ledger.accepted ++ rest
  asked : s.asked = List.replicate (s.heard.length + pending) (Node.pollRequest filter)

def Standing (s : Scene kind) (filter : String) : Phase → Prop
  | .resting => s.Polling filter [] 0
  | .asking => s.Polling filter [] 1
  | .delivering logs => s.Polling filter logs 0
  | .leaving result => s.ledger.ended = none ∧ s.Cause result ∧ s.Asked filter []
  | .forgetting result =>
    s.ledger.ended = none ∧ s.Cause result ∧ s.Asked filter [Node.uninstallRequest filter]
  | .gone =>
    ∃ k result, s.ledger.ended = some (k, result) ∧ s.Cause result ∧
      s.Asked filter [Node.uninstallRequest filter]

structure Holds (filter : String) (s : Scene kind) : Prop where
  same : s.poller.filter = filter
  fits : s.ledger.Fits s.tap.feed
  ordered : s.tap.Ordered
  standing : s.Standing filter s.poller.phase

private theorem holds_start (filter : String) (capacity : Nat) (sink : Option (Abi.Event × Nat)) :
    (start filter capacity sink : Scene kind).Holds filter := by
  refine ⟨rfl, ?_, Tap.ordered_start _ sink, rfl, ?_, ⟨[], rfl, rfl⟩, rfl⟩
  · change Feed.Ledger.blank.Fits (Tap.start (.started capacity) sink : Tap kind).feed
    rw [Tap.feed_start]
    exact Feed.Ledger.fits_blank capacity
  · change (Tap.start (.started capacity) sink : Tap kind).feed.logs.hasSender = true
    rw [Tap.feed_start]
    rfl

variable {filter : String} {s t : Scene kind} {result : Except ContractError Unit}

private theorem Holds.standingAt (holds : s.Holds filter) {phase : Phase}
    (here : s.poller.phase = phase) :
    s.Standing filter phase := here ▸ holds.standing

/-- A scene in which the same was accepted and heard, and what was told or let go of is so still. -/
structure Resembles (s t : Scene kind) : Prop where
  accepted : t.ledger.accepted = s.ledger.accepted
  heard : t.heard = s.heard
  told : s.tap.feed.subscription.isTold = true → t.tap.feed.subscription.isTold = true
  unheard : s.tap.feed.logs.hasReceiver = false → t.tap.feed.logs.hasReceiver = false

private theorem Cause.of_resembles (cause : s.Cause result) (resembles : s.Resembles t) :
    t.Cause result := by
  cases result with
  | ok u =>
    obtain ⟨stop, batches, heard, inOrder⟩ := cause
    refine ⟨stop.imp resembles.told resembles.unheard, batches, resembles.heard.trans heard, ?_⟩
    rw [resembles.accepted]
    exact inOrder
  | error e =>
    obtain ⟨batches, heard, all⟩ := cause
    exact ⟨batches, resembles.heard.trans heard, resembles.accepted.trans all⟩

private theorem Standing.of_resembles {phase : Phase} (standing : s.Standing filter phase)
    (resembles : s.Resembles t) (ended : t.ledger.ended = s.ledger.ended) (asked : t.asked = s.asked)
    (sender : t.tap.feed.logs.hasSender = s.tap.feed.logs.hasSender) : t.Standing filter phase := by
  have polling {rest : List Log} {pending : Nat} (polling : s.Polling filter rest pending) :
      t.Polling filter rest pending := by
    refine ⟨ended.trans polling.unended, sender.trans polling.sender, ?_, ?_⟩
    · rw [resembles.heard, resembles.accepted]
      exact polling.answered
    · rw [asked, resembles.heard]
      exact polling.asked
  have kept {last : List Request} (before : s.Asked filter last) : t.Asked filter last := by
    obtain ⟨n, all⟩ := before
    exact ⟨n, asked.trans all⟩
  cases phase with
  | resting => exact polling standing
  | asking => exact polling standing
  | delivering logs => exact polling standing
  | leaving result =>
    obtain ⟨unended, cause, last⟩ := standing
    exact ⟨ended.trans unended, cause.of_resembles resembles, kept last⟩
  | forgetting result =>
    obtain ⟨unended, cause, last⟩ := standing
    exact ⟨ended.trans unended, cause.of_resembles resembles, kept last⟩
  | gone =>
    obtain ⟨k, result, past, cause, last⟩ := standing
    exact ⟨k, result, ended.trans past, cause.of_resembles resembles, kept last⟩

private theorem Holds.turn (holds : s.Holds filter) (turn : Tap.Turn) :
    (s.step (.turn turn)).Holds filter := by
  simp only [step]
  cases made : s.tap.turn? turn with
  | none => exact holds
  | some tap =>
    obtain ⟨reads, ordered⟩ := holds.ordered.turn made
    refine ⟨holds.same, holds.fits.reads reads, ordered, ?_⟩
    refine holds.standing.of_resembles ⟨Feed.Ledger.accepted_watch _ _, rfl, reads.told, ?_⟩
      (Feed.Ledger.ended_watch _ _) rfl reads.sender
    intro gone
    apply Bool.eq_false_iff.2
    intro held
    cases gone.symm.trans (reads.queue held).1

private theorem moved_of_items {poller : Poller} {feed : Feed}
    (items : feed.logs.items = s.tap.feed.logs.items) :
    s.moved poller feed = { s with poller, tap := s.tap.withFeed feed } := by
  simp only [moved, items, List.drop_length, List.append_nil]

@[simp] theorem moved_self (poller : Poller) :
    s.moved poller s.tap.feed = { s with poller } := by
  rw [moved_of_items rfl, Tap.withFeed_feed]

/-- The scene after the poller has decided on a result. -/
private def left (s : Scene kind) (result : Except ContractError Unit) : Scene kind :=
  { s with poller := { s.poller with phase := .leaving result }
           tap := s.tap.withFeed { s.tap.feed with logs := s.tap.feed.logs.closeSender } }

private theorem moved_leave (result : Except ContractError Unit) :
    s.moved (s.poller.leave result s.tap.feed).1 (s.poller.leave result s.tap.feed).2 =
      s.left result := by
  have items : (s.poller.leave result s.tap.feed).2.logs.items = s.tap.feed.logs.items := rfl
  exact moved_of_items items

private theorem holds_left (same : s.poller.filter = filter) (fits : s.ledger.Fits s.tap.feed)
    (ordered : s.tap.Ordered) (unended : s.ledger.ended = none) (cause : s.Cause result)
    (asked : s.Asked filter []) : (s.left result).Holds filter := by
  have feed : (s.left result).tap.feed =
      { s.tap.feed with logs := s.tap.feed.logs.closeSender } := Tap.feed_withFeed _ _
  refine ⟨same, ?_, ordered.withFeed id, unended, ?_, asked⟩
  · rw [feed]
    exact fits.note .letGo
  · refine cause.of_resembles ⟨rfl, rfl, ?_, ?_⟩
    · rw [feed]
      exact id
    · rw [feed]
      exact id

private theorem Polling.asked_nil {rest : List Log} {pending : Nat}
    (polling : s.Polling filter rest pending) : s.Asked filter [] :=
  ⟨_, polling.asked.trans (List.append_nil _).symm⟩

private theorem Holds.stop (holds : s.Holds filter) {rest : List Log} {pending : Nat}
    (polling : s.Polling filter rest pending)
    (stop : s.tap.feed.subscription.isTold = true ∨ s.tap.feed.logs.hasReceiver = false)
    (stepped : s.poller.step? s.tap.feed = some (none, s.poller.leave (.ok ()) s.tap.feed)) :
    (s.step .step).Holds filter := by
  obtain ⟨batches, heard, all⟩ := polling.answered
  have cause : s.Cause (.ok ()) := ⟨stop, batches, heard, rest, all.symm⟩
  simp only [step, stepped, moved_leave, Option.toList_none, List.append_nil]
  exact holds_left holds.same holds.fits holds.ordered polling.unended cause polling.asked_nil

private theorem Holds.deliver (holds : s.Holds filter) {log : Log} {rest : List Log}
    (polling : s.Polling filter (log :: rest) 0) (attended : s.tap.feed.logs.hasReceiver = true)
    (room : s.tap.feed.logs.hasRoom = true) :
    (s.moved { s.poller with phase := .delivering rest }
      { s.tap.feed with logs := s.tap.feed.logs.push log }).Holds filter := by
  have offered : s.tap.feed.logs.offer log = (.accepted, s.tap.feed.logs.push log) := by
    simp only [Channel.offer, polling.sender, attended, room, Bool.not_true, Bool.or_self,
      Bool.false_eq_true, if_false, if_true]
  have fits := holds.fits.note (.offer log)
  simp only [Feed.Ledger.note, Feed.enact, offered, if_true] at fits
  obtain ⟨batches, heard, all⟩ := polling.answered
  have grown : (s.moved { s.poller with phase := .delivering rest }
      { s.tap.feed with logs := s.tap.feed.logs.push log }).ledger.accepted =
        s.ledger.accepted ++ [log] := by
    simp only [moved, Channel.push, List.drop_left]
  refine ⟨holds.same, ?_, holds.ordered.withFeed id, polling.unended, ?_, ⟨batches, heard, ?_⟩,
    polling.asked⟩
  · simp only [moved, Channel.push, List.drop_left, Tap.feed_withFeed]
    exact fits
  · simp only [moved, Tap.feed_withFeed]
    exact polling.sender
  · rw [grown, all, List.append_assoc, List.singleton_append]

private theorem Holds.carryOn (holds : s.Holds filter) {logs : List Log}
    (phase : s.poller.phase = .delivering logs) (untold : s.tap.feed.subscription.isTold = false) :
    (s.step .step).Holds filter := by
  have polling : s.Polling filter logs 0 := holds.standingAt phase
  cases logs with
  | nil =>
    have stepped : s.poller.step? s.tap.feed =
        some (none, { s.poller with phase := .resting }, s.tap.feed) := by
      simp only [step?, phase, untold, Bool.false_eq_true, if_false]
    simp only [step, stepped, moved_self, Option.toList_none, List.append_nil]
    exact ⟨holds.same, holds.fits, holds.ordered, polling.unended, polling.sender,
      polling.answered, polling.asked⟩
  | cons log rest =>
    cases attended : s.tap.feed.logs.hasReceiver with
    | false =>
      refine holds.stop polling (Or.inr attended) ?_
      simp only [step?, phase, untold, attended, Bool.false_eq_true, if_false, Bool.not_false,
        if_true]
    | true =>
      cases room : s.tap.feed.logs.hasRoom with
      | false =>
        have waiting : s.poller.step? s.tap.feed = none := by
          simp only [step?, phase, untold, attended, room, Bool.not_true, Bool.false_eq_true,
            if_false]
        simp only [step, waiting]
        exact holds
      | true =>
        have stepped : s.poller.step? s.tap.feed =
            some (none, { s.poller with phase := .delivering rest },
              { s.tap.feed with logs := s.tap.feed.logs.push log }) := by
          simp only [step?, phase, untold, attended, room, Bool.not_true, Bool.false_eq_true,
            if_false, if_true]
        simp only [step, stepped, Option.toList_none, List.append_nil]
        exact holds.deliver polling attended room

private theorem Holds.work (holds : s.Holds filter) : (s.step .step).Holds filter := by
  cases phase : s.poller.phase with
  | resting =>
    cases told : s.tap.feed.subscription.isTold with
    | true =>
      refine holds.stop (holds.standingAt phase) (Or.inl told) ?_
      simp only [step?, phase, told, if_true]
    | false =>
      simp only [step, step?, phase, told, Bool.false_eq_true, if_false]
      exact holds
  | asking =>
    cases told : s.tap.feed.subscription.isTold with
    | true =>
      refine holds.stop (holds.standingAt phase) (Or.inl told) ?_
      simp only [step?, phase, told, if_true]
    | false =>
      simp only [step, step?, phase, told, Bool.false_eq_true, if_false]
      exact holds
  | delivering logs =>
    cases told : s.tap.feed.subscription.isTold with
    | true =>
      refine holds.stop (holds.standingAt phase) (Or.inl told) ?_
      simp only [step?, phase, told, if_true]
    | false => exact holds.carryOn phase told
  | leaving result =>
    obtain ⟨unended, cause, n, asked⟩ := holds.standingAt phase
    simp only [step, step?, phase, moved_self, Option.toList_some]
    refine ⟨holds.same, holds.fits, holds.ordered, unended, ?_, n, ?_⟩
    · exact cause.of_resembles ⟨rfl, rfl, id, id⟩
    · rw [asked, holds.same, List.append_nil]
  | forgetting result =>
    simp only [step, step?, phase]
    exact holds
  | gone =>
    simp only [step, step?, phase]
    exact holds

private theorem Holds.wake (holds : s.Holds filter) : (s.step .wake).Holds filter := by
  simp only [step, wake?]
  cases phase : s.poller.phase with
  | resting =>
    have polling : s.Polling filter [] 0 := holds.standingAt phase
    refine ⟨holds.same, holds.fits, holds.ordered, polling.unended, polling.sender,
      polling.answered, ?_⟩
    simp only [polling.asked, holds.same]
    exact List.replicate_succ'.symm
  | asking => exact holds
  | delivering logs => exact holds
  | leaving result => exact holds
  | forgetting result => exact holds
  | gone => exact holds

private theorem Holds.heed (holds : s.Holds filter) (phase : s.poller.phase = .asking)
    (reply : Reply) :
    (s.step (.hear reply)).Holds filter := by
  have polling : s.Polling filter [] 1 := holds.standingAt phase
  obtain ⟨batches, heard, all⟩ := polling.answered
  rw [List.append_nil] at all
  simp only [step, hear, phase]
  cases read : Node.readPoll reply with
  | ok logs =>
    simp only [moved_self]
    refine ⟨holds.same, holds.fits, holds.ordered, polling.unended, polling.sender,
      ⟨batches ++ [logs], ?_, ?_⟩, ?_⟩
    · simp only [heard, List.map_append, List.map_cons, List.map_nil]
    · simp only [List.flatten_append, all, List.flatten_cons, List.flatten_nil, List.append_nil]
    · rw [List.length_append]
      exact polling.asked
  | error e =>
    simp only [moved_leave]
    have cause : Cause { s with heard := s.heard ++ [.error e] } (.error e) :=
      ⟨batches, congrArg (· ++ [.error e]) heard, all.symm⟩
    exact holds_left (s := { s with heard := s.heard ++ [.error e] }) holds.same holds.fits
      holds.ordered polling.unended cause polling.asked_nil

/-- Whatever the node answers when it is asked to forget the filter, the poller ends with the result
it had decided on. -/
private theorem step_hear_of_forgetting (phase : s.poller.phase = .forgetting result)
    (reply : Reply) :
    s.step (.hear reply) =
      { s with poller := { s.poller with phase := .gone }
               tap := s.tap.withFeed (s.tap.feed.enact (.exit result))
               ledger := s.ledger.note s.tap.feed (.exit result) } := by
  simp only [step, hear, phase]
  rfl

private theorem Holds.hear (holds : s.Holds filter) (reply : Reply) :
    (s.step (.hear reply)).Holds filter := by
  cases phase : s.poller.phase with
  | resting =>
    simp only [step, Poller.hear, phase, moved_self]
    exact holds
  | asking => exact holds.heed phase reply
  | delivering logs =>
    simp only [step, Poller.hear, phase, moved_self]
    exact holds
  | leaving result =>
    simp only [step, Poller.hear, phase, moved_self]
    exact holds
  | forgetting result =>
    obtain ⟨unended, cause, asked⟩ := holds.standingAt phase
    have running : s.tap.feed.subscription.isRunning = true := by
      rw [holds.fits.running, unended]
      rfl
    have feed : (s.tap.withFeed (s.tap.feed.enact (.exit result))).feed =
        s.tap.feed.enact (.exit result) := Tap.feed_withFeed _ _
    have noted : s.ledger.note s.tap.feed (.exit result) =
        { s.ledger with ended := some (s.ledger.accepted.length, result) } := if_pos running
    rw [step_hear_of_forgetting phase]
    refine ⟨holds.same, ?_, holds.ordered.withFeed fun _ => Subscription.isRunning_exit _ _, ?_⟩
    · rw [feed]
      exact holds.fits.note (.exit result)
    · rw [noted]
      refine ⟨s.ledger.accepted.length, result, rfl, ?_, asked⟩
      refine cause.of_resembles ⟨rfl, rfl, ?_, ?_⟩
      · rw [feed]
        exact fun told => (Subscription.isTold_exit _ _).trans told
      · rw [feed]
        exact id
  | gone =>
    simp only [step, Poller.hear, phase, moved_self]
    exact holds

private theorem Holds.step (holds : s.Holds filter) (act : Act) : (s.step act).Holds filter := by
  cases act with
  | step => exact holds.work
  | wake => exact holds.wake
  | hear reply => exact holds.hear reply
  | turn turn => exact holds.turn turn

private theorem Holds.run (holds : s.Holds filter) (acts : List Act) :
    (s.run acts).Holds filter := by
  induction acts generalizing s with
  | nil => exact holds
  | cons act acts ih => exact ih (holds.step act)

/-- The polling is under way; or it has a result, and the filter is forgotten, at the latest when the
poller has ended. -/
private theorem Holds.polling_or_result (holds : s.Holds filter) :
    (∃ rest pending, s.Polling filter rest pending ∧ s.result? = none) ∨
      ∃ result, s.result? = some result ∧ s.Cause result ∧
        (s.ledger.ended = none ∧ s.Asked filter [] ∨
          s.Asked filter [Node.uninstallRequest filter]) := by
  unfold result?
  cases phase : s.poller.phase with
  | resting => exact Or.inl ⟨[], 0, holds.standingAt phase, rfl⟩
  | asking => exact Or.inl ⟨[], 1, holds.standingAt phase, rfl⟩
  | delivering logs => exact Or.inl ⟨logs, 0, holds.standingAt phase, rfl⟩
  | leaving result =>
    obtain ⟨unended, cause, asked⟩ := holds.standingAt phase
    exact Or.inr ⟨result, rfl, cause, Or.inl ⟨unended, asked⟩⟩
  | forgetting result =>
    obtain ⟨-, cause, asked⟩ := holds.standingAt phase
    exact Or.inr ⟨result, rfl, cause, Or.inr asked⟩
  | gone =>
    obtain ⟨k, result, ended, cause, asked⟩ := holds.standingAt phase
    refine Or.inr ⟨result, ?_, cause, Or.inr asked⟩
    simp only [ended, Option.map_some]

private theorem Holds.cause (holds : s.Holds filter) (decided : s.result? = some result) :
    s.Cause result := by
  rcases holds.polling_or_result with ⟨rest, pending, -, undecided⟩ | ⟨result', same, cause, -⟩
  · cases undecided.symm.trans decided
  · cases same.symm.trans decided
    exact cause

private theorem Holds.accepted (holds : s.Holds filter) :
    s.ledger.accepted <+: answered s.heard := by
  rcases holds.polling_or_result with ⟨rest, pending, polling, -⟩ | ⟨result, -, cause, -⟩
  · obtain ⟨batches, heard, all⟩ := polling.answered
    rw [heard, answered_ok, all]
    exact List.prefix_append _ _
  · cases result with
    | ok u =>
      obtain ⟨-, batches, heard, inOrder⟩ := cause
      rw [heard, answered_ok]
      exact inOrder
    | error e =>
      obtain ⟨batches, heard, all⟩ := cause
      rw [heard, answered, List.flatMap_append, ← answered, answered_ok, all]
      exact List.prefix_append _ _

private theorem Holds.failed (holds : s.Holds filter)
    {before after : List (Except ContractError (List Log))} {e : ContractError}
    (heard : s.heard = before ++ .error e :: after) :
    after = [] ∧ s.result? = some (.error e) ∧ s.ledger.accepted = answered before := by
  have listed : Except.error e ∈ s.heard := by
    rw [heard]
    exact List.mem_append_right _ List.mem_cons_self
  have failure (batches : List (List Log)) : Except.error e ∉ batches.map Except.ok := by
    intro listed
    obtain ⟨logs, -, impossible⟩ := List.mem_map.1 listed
    cases impossible
  rcases holds.polling_or_result with ⟨rest, pending, polling, -⟩ | ⟨result, decided, cause, -⟩
  · obtain ⟨batches, all, -⟩ := polling.answered
    exact absurd (all ▸ listed) (failure batches)
  · cases result with
    | ok u =>
      obtain ⟨-, batches, all, -⟩ := cause
      exact absurd (all ▸ listed) (failure batches)
    | error e' =>
      obtain ⟨batches, last, all⟩ := cause
      have split := last.symm.trans heard
      rcases List.eq_nil_or_concat after with rfl | ⟨front, final, rfl⟩
      · obtain ⟨same, single⟩ := List.append_inj' split rfl
        cases single
        refine ⟨rfl, decided, ?_⟩
        rw [← same, answered_ok]
        exact all
      · rw [List.concat_eq_append, ← List.cons_append, ← List.append_assoc] at split
        have listed : Except.error e ∈ batches.map Except.ok := by
          rw [(List.append_inj' split rfl).1]
          exact List.mem_append_right _ List.mem_cons_self
        exact absurd listed (failure batches)

private theorem Holds.asked (holds : s.Holds filter) :
    s.Asked filter [] ∨ s.Asked filter [Node.uninstallRequest filter] := by
  rcases holds.polling_or_result with ⟨rest, pending, polling, -⟩ | ⟨result, -, -, asked⟩
  · exact Or.inl polling.asked_nil
  · exact asked.imp And.right id

private theorem Holds.asked_of_forgetting (holds : s.Holds filter)
    (phase : s.poller.phase = .forgetting result) :
    s.Asked filter [Node.uninstallRequest filter] :=
  (holds.standingAt phase).2.2

private theorem Holds.asked_of_ended (holds : s.Holds filter) (ended : s.ledger.ended.isSome) :
    s.Asked filter [Node.uninstallRequest filter] := by
  have past : s.ledger.ended ≠ none := by
    intro unended
    rw [unended] at ended
    cases ended
  rcases holds.polling_or_result with ⟨rest, pending, polling, -⟩ | ⟨result, -, -, asked⟩
  · exact absurd polling.unended past
  · exact asked.resolve_left fun unfinished => past unfinished.1

private theorem step_of_waiting (waiting : s.poller.step? s.tap.feed = none) :
    s.step .step = s := by
  simp only [step, waiting]

private theorem phase_step_of_leaving (phase : s.poller.phase = .leaving result) :
    (s.step .step).poller.phase = .forgetting result := by
  simp only [step, step?, phase, moved]

private theorem phase_step_of_told (told : s.tap.feed.subscription.isTold = true)
    (working : s.poller.phase = .resting ∨ s.poller.phase = .asking ∨
      ∃ logs, s.poller.phase = .delivering logs) :
    (s.step .step).poller.phase = .leaving (.ok ()) := by
  rcases working with phase | phase | ⟨logs, phase⟩
  · simp only [step, step?, phase, told, if_true, moved_leave, left]
  · simp only [step, step?, phase, told, if_true, moved_leave, left]
  · simp only [step, step?, phase, told, if_true, moved_leave, left]

private theorem Holds.asked_of_stopping (holds : s.Holds filter)
    (stopping : s.tap.feed.subscription.isTold = true ∨ s.result?.isSome) :
    ((s.step .step).step .step).Asked filter [Node.uninstallRequest filter] := by
  have later := (holds.step .step).step .step
  have working (open_ : s.result? = none) (phase : s.poller.phase = .resting ∨
      s.poller.phase = .asking ∨ ∃ logs, s.poller.phase = .delivering logs) :
      ((s.step .step).step .step).Asked filter [Node.uninstallRequest filter] := by
    have told : s.tap.feed.subscription.isTold = true := by
      apply stopping.resolve_right
      rw [open_]
      exact Bool.false_ne_true
    exact later.asked_of_forgetting (phase_step_of_leaving (phase_step_of_told told phase))
  cases phase : s.poller.phase with
  | resting => exact working (by simp only [result?, phase]) (Or.inl phase)
  | asking => exact working (by simp only [result?, phase]) (Or.inr (Or.inl phase))
  | delivering logs =>
    exact working (by simp only [result?, phase]) (Or.inr (Or.inr ⟨logs, phase⟩))
  | leaving result =>
    have forgetting := phase_step_of_leaving phase
    rw [step_of_waiting (by simp only [step?, forgetting])]
    exact (holds.step .step).asked_of_forgetting forgetting
  | forgetting result =>
    have waiting : s.poller.step? s.tap.feed = none := by simp only [step?, phase]
    rw [step_of_waiting waiting, step_of_waiting waiting]
    exact holds.asked_of_forgetting phase
  | gone =>
    have waiting : s.poller.step? s.tap.feed = none := by simp only [step?, phase]
    obtain ⟨k, result, -, -, asked⟩ := holds.standingAt phase
    rw [step_of_waiting waiting, step_of_waiting waiting]
    exact asked

private theorem Holds.taken_step (holds : s.Holds filter)
    (attended : s.tap.feed.logs.hasReceiver = true)
    {log : Log} {tap : Tap kind} (received : s.tap.receive? = some (some (.log log), tap)) :
    (s.step (.turn .receive)).ledger.taken = s.ledger.taken ++ [log] := by
  have fits := holds.fits
  have stepped : s.step (.turn .receive) =
      { s with tap, ledger := s.ledger.watch s.tap.feed.logs tap.feed.logs } := by
    simp only [Scene.step, Tap.turn?, received, Option.map_some]
  rw [stepped]
  cases held : s.tap with
  | raw feed =>
    rw [held] at received attended fits
    unfold Tap.receive? at received
    simp only at received
    split at received
    · rename_i popped
      cases received
      exact (fits.pop attended popped).2.1
    · split at received
      · cases received
      · cases received
  | decoded f =>
    rw [held] at received
    unfold Tap.receive? at received
    simp only at received
    split at received
    · cases received
    · split at received
      · cases received
      · cases received

private theorem Holds.shown (holds : s.Holds filter) (phase : s.poller.phase = .forgetting result)
    (reply : Reply) :
    (s.step (.hear reply)).ledger.ended = some (s.ledger.accepted.length, result) ∧
      (s.step (.hear reply)).tap.feed.subscription.isRunning = false ∧
      (s.step (.hear reply)).tap.feed.subscription.failure = Feed.failureOf result := by
  have running : s.tap.feed.subscription.isRunning = true := by
    rw [holds.fits.running, (holds.standingAt phase).1]
    rfl
  rw [step_hear_of_forgetting phase]
  simp only [Tap.feed_withFeed, Feed.Ledger.note, Feed.enact, Subscription.exit, running, if_true,
    true_and]
  cases result <;> rfl

private theorem Holds.ended_of_joined (holds : s.Holds filter) (joined : s.tap.join?.isSome) :
    s.ledger.ended.isSome := by
  have stopped : s.tap.handle.isRunning = false := by
    apply Bool.eq_false_iff.2
    intro running
    simp only [Tap.join?, Subscription.join?, running, if_true, Option.map_none,
      Option.isSome_none] at joined
    cases joined
  have producer := holds.ordered.producer stopped
  rw [holds.fits.running] at producer
  cases past : s.ledger.ended with
  | none =>
    rw [past] at producer
    cases producer
  | some entry => rfl

/-- In every course of a poller, its node and its consumer: the consumer takes the logs in the order
in which they were answered, none left out. A failed poll is the result, whatever the node says after
it, when all logs answered before it are in the queue; without a failure the polling ends only when it
is told to or nobody receives. The filter is forgotten once, after its last poll, before the poller
ends and a call to unsubscribe can return. -/
theorem polling_course (filter : String) (capacity : Nat) (sink : Option (Abi.Event × Nat))
    (acts : List Act) :
    let s : Scene kind := (start filter capacity sink).run acts
    (s.ledger.taken <+: s.ledger.accepted ∧ s.ledger.accepted <+: answered s.heard ∧
      (s.tap.feed.logs.hasReceiver = true →
        ∀ log tap, s.tap.receive? = some (some (.log log), tap) →
          (s.step (.turn .receive)).ledger.taken = s.ledger.taken ++ [log])) ∧
    (∀ before e after, s.heard = before ++ .error e :: after →
      after = [] ∧ s.result? = some (.error e) ∧ s.ledger.accepted = answered before) ∧
    ((∀ result, s.result? = some result → s.Cause result) ∧
      ∀ result, s.poller.phase = .forgetting result → ∀ reply,
        (s.step (.hear reply)).ledger.ended = some (s.ledger.accepted.length, result) ∧
          (s.step (.hear reply)).tap.feed.subscription.isRunning = false ∧
          (s.step (.hear reply)).tap.feed.subscription.failure = Feed.failureOf result) ∧
    ((s.Asked filter [] ∨ s.Asked filter [Node.uninstallRequest filter]) ∧
      (s.ledger.ended.isSome ∨ s.tap.join?.isSome →
        s.Asked filter [Node.uninstallRequest filter]) ∧
      (s.tap.feed.subscription.isTold = true ∨ s.result?.isSome →
        (s.run [.step, .step]).Asked filter [Node.uninstallRequest filter])) := by
  intro s
  have holds : s.Holds filter := (holds_start filter capacity sink).run acts
  refine ⟨⟨holds.fits.inOrder, holds.accepted, ?_⟩, fun _ _ _ => holds.failed,
    ⟨fun _ => holds.cause, ?_⟩, holds.asked, ?_, holds.asked_of_stopping⟩
  · exact fun attended log tap received => holds.taken_step attended received
  · exact fun result phase reply => holds.shown phase reply
  · rintro (ended | joined)
    · exact holds.asked_of_ended ended
    · exact holds.asked_of_ended (holds.ended_of_joined joined)

end Scene

end NameRights.Poller
