/- NameRights/Proofs/Feed/CursorCourse
   digest: Whatever happens while a feed is read, its records come in order and none is left out. -/

import NameRights.Feed.Cursor
import NameRights.Proofs.Feed.Ledger

set_option autoImplicit false
set_option relaxedAutoImplicit false

namespace NameRights.Cursor

variable {kind : EventKind}

/-- What happens while a feed is read: an act from outside, or a part of a call of the reader. A call
for the next record looks at the verdict and at the queued logs, in turn, until the logs give an
answer. -/
inductive Act where
  | outside (act : Feed.Act)
  | heed
  | attempt
  | take

/-- A cursor in use, with the history of its feed, and the answers to the calls for the next record,
each with the record that is shown after it. -/
structure Scene (kind : EventKind) where
  cursor : Cursor kind
  ledger : Feed.Ledger
  answers : List (Bool × Option kind.Record)

namespace Scene

def start (event : Abi.Event) (capacity : Nat) : Scene kind :=
  ⟨.start event (.started capacity), .blank, []⟩

def step (s : Scene kind) : Act → Scene kind
  | .outside act =>
    { s with cursor := { s.cursor with feed := s.cursor.feed.enact act }
             ledger := s.ledger.note s.cursor.feed act }
  | .heed => { s with cursor := s.cursor.heed }
  | .attempt =>
    match s.cursor.attempt? with
    | none => s
    | some (answer, c) =>
      ⟨c, s.ledger.watch s.cursor.feed.logs c.feed.logs, s.answers ++ [(answer, c.current)]⟩
  | .take => { s with cursor := s.cursor.take.2 }

def run (s : Scene kind) (acts : List Act) : Scene kind := acts.foldl step s

private theorem logs_heed (c : Cursor kind) : c.heed.feed.logs = c.feed.logs := by
  unfold heed
  split
  · split <;> rfl
  · rfl
  · rfl
  · rfl

private theorem heed_eq_self {c : Cursor kind} (waits : c.heed.attempt? = none) : c.heed = c := by
  unfold heed at waits ⊢
  split
  · rename_i active
    simp only [active] at waits
    split
    · rename_i failure subscription verdict
      simp only [verdict] at waits
      cases waits
    · rfl
  · rfl
  · rfl
  · rfl

/-- A call for the next record that is not disturbed is two acts. -/
theorem run_next (s : Scene kind) :
    s.run [.heed, .attempt] =
      match s.cursor.next? with
      | none => s
      | some (answer, c) =>
        ⟨c, s.ledger.watch s.cursor.feed.logs c.feed.logs, s.answers ++ [(answer, c.current)]⟩ := by
  have sameLogs : s.cursor.heed.feed.logs = s.cursor.feed.logs := logs_heed s.cursor
  change (s.step .heed).step .attempt = _
  simp only [step, next?, sameLogs]
  cases attempted : s.cursor.heed.attempt? with
  | none =>
    simp only [heed_eq_self attempted]
  | some result => rfl

structure Reads (event : Abi.Event) (s : Scene kind) (records : List kind.Record) : Prop where
  decoded : s.ledger.taken.map (kind.decode event) = records.map .ok
  unfailing : s.cursor.failure = none

/-- The producer has ended, and its failure is the one that the cursor reports. -/
def Reports (s : Scene kind) (n : Nat) : Prop :=
  ∃ k result, s.ledger.ended = some (k, result) ∧ k ≤ n ∧
    s.cursor.feedFailure = Feed.failureOf result

/-- The reading has stopped at log `n`, which is no record. -/
def StopsAtLog (event : Abi.Event) (s : Scene kind) (n : Nat) : Prop :=
  ∃ log e, s.ledger.accepted[n]? = some log ∧ kind.decode event log = .error e ∧
    s.cursor.failure = some e ∧ s.cursor.current = none

/-- The reading has stopped after `n` records, which are those of all logs that were accepted
before the producer ended. -/
def StopsAtEnd (s : Scene kind) (n : Nat) : Prop := s.cursor.failure = none ∧ s.Reports n

def Standing (event : Abi.Event) (s : Scene kind) (records : List kind.Record)
    (refusals : List (Bool × Option kind.Record)) : Phase → Prop
  | .active =>
    refusals = [] ∧ s.Reads event records ∧ s.cursor.feedFailure = none ∧
      s.ledger.Unread s.cursor.feed
  | .draining => refusals = [] ∧ s.Reads event records ∧ s.Reports s.ledger.accepted.length
  | .exhausted => s.Reads event records ∧ s.Reports records.length
  | .failed =>
    ∃ front log e, s.ledger.taken = front ++ [log] ∧
      front.map (kind.decode event) = records.map .ok ∧ kind.decode event log = .error e ∧
      s.cursor.failure = some e ∧ s.cursor.current = none

structure Holds (event : Abi.Event) (s : Scene kind) : Prop where
  sameEvent : s.cursor.event = event
  held : s.cursor.feed.logs.hasReceiver = true
  fits : s.ledger.Fits s.cursor.feed
  standing : ∃ records refusals,
    s.answers = records.map (fun r => (true, some r)) ++ refusals ∧
    (∀ a ∈ refusals, a.1 = false) ∧ s.Standing event records refusals s.cursor.phase

theorem holds_start (event : Abi.Event) (capacity : Nat) :
    (start event capacity : Scene kind).Holds event :=
  ⟨rfl, rfl, Feed.Ledger.fits_blank capacity, [], [], rfl, fun _ none => (nomatch none),
    rfl, ⟨rfl, rfl⟩, rfl, Feed.Ledger.unread_blank _⟩

variable {event : Abi.Event} {s : Scene kind}

private theorem Reports.mono {n m : Nat} (reports : s.Reports n) (le : n ≤ m) : s.Reports m := by
  obtain ⟨k, result, ended, within, same⟩ := reports
  exact ⟨k, result, ended, Nat.le_trans within le, same⟩

theorem Holds.outside (holds : s.Holds event) (act : Feed.Act) :
    (s.step (.outside act)).Holds event := by
  obtain ⟨sameEvent, held, fits, records, refusals, answers, refused, standing⟩ := holds
  have reports {n : Nat} (reported : s.Reports n) : (s.step (.outside act)).Reports n := by
    obtain ⟨k, result, ended, within, same⟩ := reported
    exact ⟨k, result, fits.ended_note ended act, within, same⟩
  have reads (read : s.Reads event records) : (s.step (.outside act)).Reads event records := by
    refine ⟨?_, read.unfailing⟩
    simp only [step, Feed.Ledger.taken_note, read.decoded]
  refine ⟨sameEvent, ?_, fits.note act, records, refusals, answers, refused, ?_⟩
  · exact (Feed.hasReceiver_enact _ act).trans held
  · change (s.step (.outside act)).Standing event records refusals s.cursor.phase
    cases phase : s.cursor.phase with
    | active =>
      rw [phase] at standing
      obtain ⟨none, read, silent, unread⟩ := standing
      exact ⟨none, reads read, silent, unread.note act⟩
    | draining =>
      rw [phase] at standing
      obtain ⟨none, read, reported⟩ := standing
      exact ⟨none, reads read,
        (reports reported).mono (Feed.Ledger.accepted_note act).length_le⟩
    | exhausted =>
      rw [phase] at standing
      exact ⟨reads standing.1, reports standing.2⟩
    | failed =>
      rw [phase] at standing
      obtain ⟨front, log, e, taken, rest⟩ := standing
      exact ⟨front, log, e, (Feed.Ledger.taken_note act).trans taken, rest⟩

theorem Holds.heed (holds : s.Holds event) : (s.step .heed).Holds event := by
  obtain ⟨sameEvent, held, fits, records, refusals, answers, refused, standing⟩ := holds
  have intact : s.Holds event := ⟨sameEvent, held, fits, records, refusals, answers, refused,
    standing⟩
  simp only [step]
  unfold Cursor.heed
  split
  · rename_i active
    split
    · rename_i failure subscription verdict
      rw [active] at standing
      obtain ⟨none, read, silent, unread⟩ := standing
      obtain ⟨k, result, ended, rfl⟩ := fits.verdict unread verdict
      refine ⟨sameEvent, held, fits.collected verdict, records, refusals, answers, refused, none,
        ⟨read.decoded, read.unfailing⟩, k, result, ended, fits.earlier k result ended, ?_⟩
      rw [silent]
      cases result <;> rfl
    · exact intact
  · exact intact
  · exact intact
  · exact intact

private theorem Holds.take (holds : s.Holds event) : (s.step .take).Holds event := by
  obtain ⟨sameEvent, held, fits, records, refusals, answers, refused, standing⟩ := holds
  refine ⟨sameEvent, held, fits, records, refusals, answers, refused, ?_⟩
  change (s.step .take).Standing event records refusals s.cursor.phase
  cases phase : s.cursor.phase with
  | active =>
    rw [phase] at standing
    exact ⟨standing.1, ⟨standing.2.1.decoded, standing.2.1.unfailing⟩, standing.2.2⟩
  | draining =>
    rw [phase] at standing
    exact ⟨standing.1, ⟨standing.2.1.decoded, standing.2.1.unfailing⟩, standing.2.2⟩
  | exhausted =>
    rw [phase] at standing
    exact ⟨⟨standing.1.decoded, standing.1.unfailing⟩, standing.2⟩
  | failed =>
    rw [phase] at standing
    obtain ⟨front, log, e, taken, decoded, broken, failure, -⟩ := standing
    exact ⟨front, log, e, taken, decoded, broken, failure, rfl⟩

def answered (s : Scene kind) (answer : Bool) (c : Cursor kind) : Scene kind :=
  ⟨c, s.ledger.watch s.cursor.feed.logs c.feed.logs, s.answers ++ [(answer, c.current)]⟩

private theorem Holds.refuse (holds : s.Holds event)
    (stopped : s.cursor.phase = .exhausted ∨ s.cursor.phase = .failed) :
    (s.answered false s.cursor).Holds event := by
  obtain ⟨sameEvent, held, fits, records, refusals, answers, refused, standing⟩ := holds
  have same : s.answered false s.cursor =
      { s with answers := s.answers ++ [(false, s.cursor.current)] } := by
    simp only [answered, Feed.Ledger.watch_self]
  rw [same]
  refine ⟨sameEvent, held, fits, records, refusals ++ [(false, s.cursor.current)], ?_, ?_, ?_⟩
  · simp only [answers, List.append_assoc]
  · intro a member
    rcases List.mem_append.1 member with before | last
    · exact refused a before
    · rw [List.mem_singleton.1 last]
  · change Standing _ _ _ _ s.cursor.phase
    rcases stopped with exhausted | failed
    · rw [exhausted] at standing ⊢
      exact ⟨⟨standing.1.decoded, standing.1.unfailing⟩, standing.2⟩
    · rw [failed] at standing ⊢
      exact standing

private theorem Holds.readQueued (holds : s.Holds event)
    (going : s.cursor.phase = .active ∨ s.cursor.phase = .draining) {answer : Bool}
    {c : Cursor kind} (attempted : s.cursor.readQueued? = some (answer, c)) :
    (s.answered answer c).Holds event := by
  obtain ⟨rfl, held, fits, records, refusals, answers, refused, standing⟩ := holds
  have unrefused : refusals = [] ∧ s.Reads s.cursor.event records := by
    rcases going with active | draining
    · rw [active] at standing
      exact ⟨standing.1, standing.2.1⟩
    · rw [draining] at standing
      exact ⟨standing.1, standing.2.1⟩
  obtain ⟨rfl, read⟩ := unrefused
  unfold readQueued? at attempted
  obtain ⟨⟨log, logs⟩, popped, made⟩ := Option.map_eq_some_iff.1 attempted
  obtain ⟨fits', taken, next, shape⟩ := fits.pop held popped
  have held' : logs.hasReceiver = true := by
    rw [shape]
    exact held
  simp only [Cursor.read] at made
  cases decoded : kind.decode s.cursor.event log with
  | ok record =>
    rw [decoded] at made
    cases made
    have all : (s.ledger.watch s.cursor.feed.logs logs).taken.map (kind.decode s.cursor.event) =
        (records ++ [record]).map .ok := by
      simp only [taken, List.map_append, read.decoded, List.map_cons, List.map_nil, decoded]
    refine ⟨rfl, held', fits', records ++ [record], [], ?_, refused, ?_⟩
    · simp only [answered, answers, List.append_nil, List.map_append, List.map_cons, List.map_nil]
    · change Standing _ _ _ _ s.cursor.phase
      rcases going with active | draining
      · rw [active] at standing ⊢
        obtain ⟨-, -, silent, unread⟩ := standing
        exact ⟨rfl, ⟨all, read.unfailing⟩, silent, unread.watch _ _⟩
      · rw [draining] at standing ⊢
        obtain ⟨-, -, k, result, ended, within, same⟩ := standing
        refine ⟨rfl, ⟨all, read.unfailing⟩, k, result, ?_, ?_, same⟩
        · exact (Feed.Ledger.ended_watch _ _).trans ended
        · simp only [answered, Feed.Ledger.accepted_watch]
          exact within
  | error e =>
    rw [decoded] at made
    cases made
    refine ⟨rfl, held', fits', records, [(false, none)], ?_, ?_, s.ledger.taken, log, e,
      taken, read.decoded, decoded, rfl, rfl⟩
    · simp only [answered, answers, List.append_nil]
    · intro a member
      rw [List.mem_singleton.1 member]

private theorem Holds.runDry (holds : s.Holds event) (draining : s.cursor.phase = .draining)
    (dry : s.cursor.readQueued? = none) :
    (s.answered false { s.cursor with phase := .exhausted }).Holds event := by
  obtain ⟨sameEvent, held, fits, records, refusals, answers, refused, standing⟩ := holds
  rw [draining] at standing
  obtain ⟨rfl, read, k, result, ended, within, same⟩ := standing
  have empty : s.cursor.feed.logs.items = [] := by
    unfold readQueued? Channel.pop? at dry
    cases items : s.cursor.feed.logs.items with
    | nil => rfl
    | cons log logs =>
      rw [items] at dry
      cases dry
  have all : s.ledger.accepted.length = records.length := by
    have lengths := congrArg List.length read.decoded
    rw [List.length_map, List.length_map] at lengths
    rw [fits.queued held, empty, List.append_nil, lengths]
  have unmoved : s.answered false { s.cursor with phase := .exhausted } =
      ⟨{ s.cursor with phase := .exhausted }, s.ledger,
        s.answers ++ [(false, s.cursor.current)]⟩ := by
    simp only [answered, Feed.Ledger.watch_self]
  rw [unmoved]
  refine ⟨sameEvent, held, fits, records, [(false, s.cursor.current)], ?_, ?_,
    ⟨read.decoded, read.unfailing⟩, k, result, ended, ?_, same⟩
  · simp only [answers, List.append_nil]
  · intro a member
    rw [List.mem_singleton.1 member]
  · rw [← all]
    exact within

/-- Every answer keeps the invariant: a queued log is read, or the queue is found empty after the
producer's end, or there is nothing left to do. -/
theorem Holds.attempt (holds : s.Holds event) : (s.step .attempt).Holds event := by
  simp only [step]
  cases attempted : s.cursor.attempt? with
  | none => exact holds
  | some result =>
    obtain ⟨answer, c⟩ := result
    change (s.answered answer c).Holds event
    unfold attempt? at attempted
    split at attempted
    · rename_i exhausted
      cases attempted
      exact holds.refuse (Or.inl exhausted)
    · rename_i failed
      cases attempted
      exact holds.refuse (Or.inr failed)
    · rename_i draining
      unfold drain at attempted
      cases read : s.cursor.readQueued? with
      | none =>
        rw [read] at attempted
        cases attempted
        exact holds.runDry draining read
      | some result =>
        rw [read] at attempted
        cases attempted
        exact holds.readQueued (Or.inr draining) read
    · rename_i active
      exact holds.readQueued (Or.inl active) attempted

private theorem Holds.step (holds : s.Holds event) (act : Act) : (s.step act).Holds event := by
  cases act with
  | outside act => exact holds.outside act
  | heed => exact holds.heed
  | attempt => exact holds.attempt
  | take => exact holds.take

private theorem Holds.run (holds : s.Holds event) (acts : List Act) : (s.run acts).Holds event := by
  induction acts generalizing s with
  | nil => exact holds
  | cons act acts ih => exact ih (holds.step act)

def IsStopped (s : Scene kind) : Prop := s.cursor.phase = .exhausted ∨ s.cursor.phase = .failed

/-- From one scene to a later one, all calls are refused, no log is taken, and both failures stay as
they are. -/
structure Rests (s t : Scene kind) : Prop where
  phase : t.cursor.phase = s.cursor.phase
  taken : t.ledger.taken = s.ledger.taken
  failure : t.cursor.failure = s.cursor.failure
  feedFailure : t.cursor.feedFailure = s.cursor.feedFailure
  answers : ∃ refusals, t.answers = s.answers ++ refusals ∧ ∀ a ∈ refusals, a.1 = false

private theorem Rests.refl (s : Scene kind) : s.Rests s :=
  ⟨rfl, rfl, rfl, rfl, [], (List.append_nil _).symm, fun _ none => (nomatch none)⟩

private theorem Rests.trans {t u : Scene kind} (first : s.Rests t) (second : t.Rests u) :
    s.Rests u := by
  obtain ⟨before, extended, refused⟩ := first.answers
  obtain ⟨after, extended', refused'⟩ := second.answers
  refine ⟨second.phase.trans first.phase, second.taken.trans first.taken,
    second.failure.trans first.failure, second.feedFailure.trans first.feedFailure,
    before ++ after, ?_, ?_⟩
  · rw [extended', extended, List.append_assoc]
  · intro a member
    rcases List.mem_append.1 member with early | late
    · exact refused a early
    · exact refused' a late

private theorem IsStopped.heed (stopped : s.IsStopped) : s.cursor.heed = s.cursor := by
  rcases stopped with phase | phase <;> simp only [Cursor.heed, phase]

private theorem IsStopped.attempt (stopped : s.IsStopped) :
    s.cursor.attempt? = some (false, s.cursor) := by
  rcases stopped with phase | phase <;> simp only [attempt?, phase]

private theorem IsStopped.next (stopped : s.IsStopped) :
    s.cursor.next? = some (false, s.cursor) := by
  rw [next?, stopped.heed, stopped.attempt]

private theorem IsStopped.step (stopped : s.IsStopped) (act : Act) : s.Rests (s.step act) := by
  cases act with
  | outside act =>
    exact ⟨rfl, Feed.Ledger.taken_note act, rfl, rfl, (Rests.refl s).answers⟩
  | heed =>
    simp only [Scene.step, stopped.heed]
    exact Rests.refl s
  | attempt =>
    simp only [Scene.step, stopped.attempt, Feed.Ledger.watch_self]
    refine ⟨rfl, rfl, rfl, rfl, [(false, s.cursor.current)], rfl, ?_⟩
    intro a member
    rw [List.mem_singleton.1 member]
  | take => exact ⟨rfl, rfl, rfl, rfl, (Rests.refl s).answers⟩

private theorem IsStopped.of_rests {t : Scene kind} (stopped : s.IsStopped) (rests : s.Rests t) :
    t.IsStopped := by
  unfold IsStopped
  rw [rests.phase]
  exact stopped

private theorem IsStopped.run (stopped : s.IsStopped) (acts : List Act) : s.Rests (s.run acts) := by
  induction acts generalizing s with
  | nil => exact Rests.refl s
  | cons act acts ih =>
    have once := stopped.step act
    exact once.trans (ih (stopped.of_rests once))

private theorem take_of_decoded {accepted front : List Log} {records : List kind.Record}
    (inOrder : front <+: accepted) (decoded : front.map (kind.decode event) = records.map .ok) :
    (accepted.take records.length).map (kind.decode event) = records.map .ok := by
  have lengths := congrArg List.length decoded
  rw [List.length_map, List.length_map] at lengths
  rw [← lengths, ← List.prefix_iff_eq_take.1 inOrder, decoded]

/-- A scene that holds, seen from its reader: the records told are those of the first logs, and a
refusal has its reason. -/
theorem Holds.told (holds : s.Holds event) :
    ∃ (records : List kind.Record) (refusals : List (Bool × Option kind.Record)),
      s.answers = records.map (fun r => (true, some r)) ++ refusals ∧
      (∀ a ∈ refusals, a.1 = false) ∧
      (s.ledger.accepted.take records.length).map (kind.decode event) = records.map .ok ∧
      (refusals ≠ [] → s.IsStopped ∧
        (s.StopsAtLog event records.length ∨ s.StopsAtEnd records.length)) := by
  obtain ⟨-, -, fits, records, refusals, answers, refused, standing⟩ := holds
  refine ⟨records, refusals, answers, refused, ?_⟩
  unfold IsStopped
  cases phase : s.cursor.phase with
  | active =>
    rw [phase] at standing
    exact ⟨take_of_decoded fits.inOrder standing.2.1.decoded, fun some => absurd standing.1 some⟩
  | draining =>
    rw [phase] at standing
    exact ⟨take_of_decoded fits.inOrder standing.2.1.decoded, fun some => absurd standing.1 some⟩
  | exhausted =>
    rw [phase] at standing
    exact ⟨take_of_decoded fits.inOrder standing.1.decoded,
      fun _ => ⟨Or.inl rfl, Or.inr ⟨standing.1.unfailing, standing.2⟩⟩⟩
  | failed =>
    rw [phase] at standing
    obtain ⟨front, log, e, taken, decoded, broken, failure, current⟩ := standing
    have inOrder := fits.inOrder
    rw [taken] at inOrder
    have lengths := congrArg List.length decoded
    rw [List.length_map, List.length_map] at lengths
    have next : s.ledger.accepted[records.length]? = some log := by
      obtain ⟨rest, whole⟩ := inOrder
      rw [← whole, ← lengths]
      simp
    exact ⟨take_of_decoded ((List.prefix_append _ _).trans inOrder) decoded,
      fun _ => ⟨Or.inr rfl, Or.inl ⟨log, e, next, broken, failure, current⟩⟩⟩

/-- In every course of a feed and its reader, the answers are the records of the first logs accepted,
in order, and then refusals. A first refusal comes at a log that is no record, or after all logs that
were accepted before the producer's end; from then on every call for the next record is answered at
once, with a refusal, and nothing changes any more. -/
theorem reading_course (event : Abi.Event) (capacity : Nat) (acts : List Act) :
    let s : Scene kind := (start event capacity).run acts
    ∃ (records : List kind.Record) (refusals : List (Bool × Option kind.Record)),
      s.answers = records.map (fun r => (true, some r)) ++ refusals ∧
      (∀ a ∈ refusals, a.1 = false) ∧
      (s.ledger.accepted.take records.length).map (kind.decode event) = records.map .ok ∧
      (refusals ≠ [] → (s.StopsAtLog event records.length ∨ s.StopsAtEnd records.length) ∧
        ∀ more, let t := s.run more
          s.Rests t ∧ t.cursor.next? = some (false, t.cursor) ∧
            t.cursor.attempt? = some (false, t.cursor)) := by
  intro s
  have holds : s.Holds event := (holds_start event capacity).run acts
  obtain ⟨records, refusals, answers, refused, decoded, reason⟩ := holds.told
  refine ⟨records, refusals, answers, refused, decoded, fun some => ?_⟩
  obtain ⟨stopped, why⟩ := reason some
  refine ⟨why, fun more => ?_⟩
  have rests := stopped.run more
  have still := stopped.of_rests rests
  exact ⟨rests, still.next, still.attempt⟩

end Scene

end NameRights.Cursor
