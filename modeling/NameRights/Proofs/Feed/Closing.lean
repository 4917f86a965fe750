/- NameRights/Proofs/Feed/Closing
   digest: What a reader that has closed its feed still gets to read, and that to close again is nothing. -/

import NameRights.Proofs.Feed.CallCourse
import NameRights.Proofs.Feed.Supply

set_option autoImplicit false
set_option relaxedAutoImplicit false

namespace NameRights.Cursor.Call.Scene

variable {kind : EventKind} {s t u : Scene kind} {call : Call}

def IsStopped (c : Cursor kind) : Prop := c.phase = .exhausted ∨ c.phase = .failed

/-- A call that takes a log finds the cursor neither exhausted nor failed. -/
theorem not_stopped_of_reads {c : Cursor kind} (reads : call.Reads c) (stands : Stands c call) :
    ¬ IsStopped c := by
  intro stopped
  rcases going_of_reads reads stands with begun | begun <;>
    rcases stopped with phase | phase <;> cases begun.symm.trans phase

private theorem not_stands_of_settled {c d : Cursor kind} {after : Call}
    (settled : c.phase ≠ .active)
    (stands : Stands c call) : ¬ Moves c call (.stands after) d := by
  intro moves
  cases moves with
  | heed active | look active => exact settled active
  | wait | finish => exact settled stands
  | stay => exact settled stands.1

private theorem accepted_step (s : Scene kind) (act : Act) :
    s.ledger.accepted <+: (s.step act).ledger.accepted := by
  cases act with
  | outside act => exact Feed.Ledger.accepted_note act
  | move move =>
    have same : (s.make move).ledger.accepted = s.ledger.accepted := by
      rw [(frame_make s move).ledger, Feed.Ledger.accepted_watch]
    change s.ledger.accepted <+: (s.make move).ledger.accepted
    simp only [same, List.prefix_rfl]

private theorem accepted_run (s : Scene kind) (acts : List Act) :
    s.ledger.accepted <+: (s.run acts).ledger.accepted := by
  induction acts generalizing s with
  | nil => exact List.prefix_rfl
  | cons act acts ih => exact (accepted_step s act).trans (ih (s.step act))

/-- From a scene to a later one, of which the reader has done nothing but to close. -/
structure Shuts (s t : Scene kind) : Prop where
  event : t.cursor.event = s.cursor.event
  current : t.cursor.current = s.cursor.current
  failure : t.cursor.failure = s.cursor.failure
  feedFailure : t.cursor.feedFailure = s.cursor.feedFailure
  taken : t.ledger.taken = s.ledger.taken
  answers : t.answers = s.answers
  phase : s.cursor.phase ≠ .active → t.cursor.phase = s.cursor.phase
  count : (t.stage = .closing ∧ t.closes = s.closes) ∨ (t.stage = .free ∧ t.closes = s.closes + 1)

private theorem shuts_close (free : s.stage = .free) : s.Shuts (s.step (.move .close)) := by
  simp only [step, make, if_pos free]
  exact ⟨rfl, rfl, rfl, rfl, rfl, rfl, fun _ => rfl, Or.inl ⟨rfl, rfl⟩⟩

private theorem Shuts.goOn (shuts : s.Shuts t) : s.Shuts t.goOn := by
  rcases shuts.count with ⟨closing, same⟩ | ⟨free, -⟩
  · cases joined : t.cursor.endClose? with
    | none =>
      simp only [Scene.goOn, closing, joined]
      exact shuts
    | some c =>
      simp only [Scene.goOn, closing, joined]
      obtain ⟨subscription, -, rfl⟩ := Option.map_eq_some_iff.1 joined
      refine ⟨shuts.event, shuts.current, shuts.failure, shuts.feedFailure, shuts.taken,
        shuts.answers, ?_, Or.inr ⟨rfl, congrArg (· + 1) same⟩⟩
      intro begun
      have before := shuts.phase begun
      simp only [before, if_neg begun]
  · rw [goOn_of_free free]
    exact shuts

private theorem Shuts.during (shuts : s.Shuts t) (act : Option Feed.Act) :
    s.Shuts (t.step (during act)) := by
  cases act with
  | none => exact shuts.goOn
  | some act =>
    obtain ⟨event, current, failure, feedFailure, taken, answers, phase, count⟩ := shuts
    exact ⟨event, current, failure, feedFailure, (Feed.Ledger.taken_note act).trans taken, answers,
      phase, count⟩

private theorem shuts_meanwhile (free : s.stage = .free) (meanwhile : List (Option Feed.Act)) :
    s.Shuts (s.run (.move .close :: meanwhile.map during)) := by
  have onward (t : Scene kind) (shuts : s.Shuts t) : s.Shuts (t.run (meanwhile.map Scene.during)) := by
    induction meanwhile generalizing t with
    | nil => exact shuts
    | cons act meanwhile ih => exact ih _ (shuts.during act)
  exact onward _ (shuts_close free)

private theorem goOn_closing_iff (closing : s.stage = .closing) :
    s.goOn.stage = .free ↔ s.cursor.feed.subscription.isRunning = false := by
  cases running : s.cursor.feed.subscription.isRunning with
  | false => simp [goOn, closing, endClose?, Subscription.join?, running]
  | true => simp [goOn, closing, endClose?, Subscription.join?, running]

/-- What a reader that does not wait any more has yet to read: the records of the queued logs, and
the failure to come. -/
def outlook (c : Cursor kind) : List kind.Record × Option ContractError :=
  match c.phase with
  | .active | .draining => kind.readThrough c.event c.feed.logs.items
  | .exhausted | .failed => ([], c.failure)

private theorem outlook_of_going {c : Cursor kind} (going : ¬ IsStopped c) :
    outlook c = kind.readThrough c.event c.feed.logs.items := by
  unfold outlook
  split
  · rfl
  · rfl
  · exact absurd (Or.inl ‹_›) going
  · exact absurd (Or.inr ‹_›) going

private theorem outlook_of_stopped {c : Cursor kind} (stopped : IsStopped c) :
    outlook c = ([], c.failure) := by
  rcases stopped with phase | phase <;> simp only [outlook, phase]

/-- From a scene where the reader has closed to a later one: what was answered meanwhile and what is
yet to be read are together what was to be read then. -/
structure Follows (t u : Scene kind) : Prop where
  settled : u.cursor.phase ≠ .active
  spent : Subscription.Scene.IsSpent u.cursor.feed.subscription
  feedFailure : u.cursor.feedFailure = t.cursor.feedFailure
  answered : ∃ (records : List kind.Record) (refusals : List (Bool × Option kind.Record)),
    u.answers = t.answers ++ records.map (fun r => (true, some r)) ++ refusals ∧
    (∀ a ∈ refusals, a.1 = false) ∧ (refusals ≠ [] → IsStopped u.cursor) ∧
    (records ++ (outlook u.cursor).1, (outlook u.cursor).2) = outlook t.cursor

theorem follows_self (sound : t.Sound) (closed : t.closes ≠ 0) : t.Follows t := by
  obtain ⟨settled, spent⟩ := sound.closed closed
  refine ⟨settled, spent, rfl, [], [], ?_, ?_, fun some => absurd rfl some, rfl⟩
  · rw [List.map_nil, List.append_nil, List.append_nil]
  · intro a none
    cases none

private theorem Follows.keep (follows : t.Follows u) {v : Scene kind}
    (phase : v.cursor.phase = u.cursor.phase)
    (subscription : v.cursor.feed.subscription = u.cursor.feed.subscription)
    (feedFailure : v.cursor.feedFailure = u.cursor.feedFailure)
    (same : outlook v.cursor = outlook u.cursor) (answers : v.answers = u.answers) :
    t.Follows v := by
  obtain ⟨settled, spent, unchanged, records, refusals, given, refused, stopped, whole⟩ := follows
  refine ⟨?_, ?_, feedFailure.trans unchanged, records, refusals, answers.trans given, refused, ?_, ?_⟩
  · rw [phase]
    exact settled
  · rw [subscription]
    exact spent
  · unfold IsStopped
    rw [phase]
    exact stopped
  · rw [same]
    exact whole

private theorem Follows.outside (follows : t.Follows u) (act : Feed.Act)
    (unsent : (u.step (.outside act)).ledger.accepted = u.ledger.accepted) :
    t.Follows (u.step (.outside act)) := by
  cases act with
  | letGo => exact follows.keep rfl rfl rfl rfl rfl
  | exit result =>
    have same := follows.spent.exit result
    refine follows.keep rfl ?_ rfl rfl rfl
    exact same
  | offer log =>
    rcases Feed.Ledger.offer_cases u.cursor.feed.logs log with accepted | ⟨-, same⟩
    · simp [step, Feed.Ledger.note, accepted] at unsent
    · refine follows.keep rfl rfl rfl ?_ rfl
      simp only [step, Feed.enact, same]

private theorem Follows.refuse (follows : t.Follows u) {c : Cursor kind} (stopped : IsStopped c)
    (subscription : c.feed.subscription = u.cursor.feed.subscription)
    (feedFailure : c.feedFailure = u.cursor.feedFailure)
    (same : outlook u.cursor = ([], c.failure)) : t.Follows (u.answered false c) := by
  obtain ⟨-, spent, unchanged, records, refusals, given, refused, -, whole⟩ := follows
  refine ⟨?_, ?_, feedFailure.trans unchanged, records, refusals ++ [(false, c.current)], ?_, ?_,
    fun _ => stopped, ?_⟩
  · intro active
    rcases stopped with phase | phase <;> cases active.symm.trans phase
  · change Subscription.Scene.IsSpent c.feed.subscription
    rw [subscription]
    exact spent
  · simp only [Scene.answered, given, List.append_assoc]
  · intro a member
    rcases List.mem_append.1 member with before | last
    · exact refused a before
    · rw [List.mem_singleton.1 last]
  · change (records ++ (outlook c).1, (outlook c).2) = outlook t.cursor
    rw [outlook_of_stopped stopped, ← same]
    exact whole

private theorem Follows.answer (sound : u.Sound) (follows : t.Follows u)
    (calling : u.stage = .calling call)
    {answer : Bool} {c : Cursor kind} (moves : Moves u.cursor call (.returns answer) c) :
    t.Follows (u.answered answer c) := by
  have standing := sound.stands call calling
  have going (reads : call.Reads u.cursor) := not_stopped_of_reads reads standing
  cases moves with
  | refuse stopped => exact follows.refuse stopped rfl rfl (outlook_of_stopped stopped)
  | fail reads items broken =>
    refine follows.refuse (Or.inr rfl) rfl rfl ?_
    rw [outlook_of_going (going reads), items, EventKind.readThrough, broken]
  | exhaust reads notLogs empty =>
    refine follows.refuse (Or.inl rfl) rfl rfl ?_
    have unfailing := sound.unfailing.2 fun failed => going reads (Or.inr failed)
    rw [outlook_of_going (going reads), empty, EventKind.readThrough, unfailing]
  | close verdict => exact absurd standing.1 follows.settled
  | read reads items decoded =>
    rename_i log rest record
    obtain ⟨settled, spent, unchanged, records, refusals, given, refused, stopped, whole⟩ := follows
    have unrefused : refusals = [] := Classical.byContradiction fun some => going reads (stopped some)
    subst unrefused
    refine ⟨settled, spent, unchanged, records ++ [record], [], ?_, refused,
      fun some => absurd rfl some, ?_⟩
    · simp only [Scene.answered, given, List.append_nil, List.map_append, List.map_cons,
        List.map_nil, List.append_assoc]
    · have onward : outlook { u.cursor with feed.logs.items := rest, current := some record } =
          kind.readThrough u.cursor.event rest := outlook_of_going (going reads)
      simp only [Scene.answered]
      rw [outlook_of_going (going reads), items, EventKind.readThrough, decoded] at whole
      rw [onward, ← whole, List.append_assoc]
      rfl

private theorem Follows.goOn (sound : u.Sound) (follows : t.Follows u) : t.Follows u.goOn := by
  cases stage : u.stage with
  | free =>
    rw [goOn_of_free stage]
    exact follows
  | calling call =>
    rcases goOn_cases stage with ⟨after, c, moves, made⟩ | ⟨answer, c, moves, made⟩
    · have standing := sound.stands call stage
      exact absurd moves (not_stands_of_settled follows.settled standing)
    · rw [made]
      exact follows.answer sound stage moves
  | closing =>
    have joined : u.cursor.endClose? = some u.cursor := by
      simp [endClose?, follows.spent.join?, follows.settled]
    simp only [Scene.goOn, stage, joined]
    exact follows.keep rfl rfl rfl rfl rfl

private theorem Follows.make (sound : u.Sound) (follows : t.Follows u) (move : Move) :
    t.Follows (u.make move) := by
  cases move with
  | step => exact follows.goOn sound
  | next | take =>
    simp only [Scene.make]
    split
    · exact follows.keep rfl rfl rfl rfl rfl
    · exact follows
  | abandon =>
    simp only [Scene.make]
    split
    · split
      · exact follows.keep rfl rfl rfl rfl rfl
      · exact follows
    · exact follows
    · exact follows
  | close =>
    simp only [Scene.make]
    split
    · exact follows.keep rfl follows.spent.tell rfl rfl rfl
    · exact follows

private theorem Follows.run (sound : u.Sound) (follows : t.Follows u) (acts : List Act)
    (unsent : (u.run acts).ledger.accepted = u.ledger.accepted) : t.Follows (u.run acts) := by
  induction acts generalizing u with
  | nil => exact follows
  | cons act acts ih =>
    have first := accepted_step u act
    have others := accepted_run (u.step act) acts
    -- nothing was sent on the whole, so nothing was sent by the first act
    have still : (u.step act).ledger.accepted = u.ledger.accepted := by
      refine (first.eq_of_length_le ?_).symm
      have lengths := congrArg List.length unsent
      have longer := others.length_le
      simp only [run_cons] at lengths
      omega
    apply ih (sound.step act)
    · cases act with
      | outside act => exact follows.outside act still
      | move move => exact follows.make sound move
    · exact unsent.trans still.symm

theorem Follows.returns (sound : u.Sound) (follows : t.Follows u) (busy : u.stage ≠ .free) :
    u.goOn.stage = .free := by
  cases stage : u.stage with
  | free => exact absurd stage busy
  | closing => exact (goOn_closing_iff stage).2 follows.spent.2.1
  | calling call =>
    rcases goOn_cases stage with ⟨after, c, moves, -⟩ | ⟨answer, c, -, made⟩
    · have standing := sound.stands call stage
      exact absurd moves (not_stands_of_settled follows.settled standing)
    · rw [made]
      rfl

private theorem Follows.close_again (follows : t.Follows u) (free : u.stage = .free) :
    u.run [.move .close, .move .step] = { u with closes := u.closes + 1 } := by
  have told : u.cursor.beginClose = u.cursor := by
    simp only [beginClose, follows.spent.tell]
  have joined : u.cursor.endClose? = some u.cursor := by
    simp [endClose?, follows.spent.join?, follows.settled]
  have begun : u.step (.move .close) = { u with stage := .closing } := by
    simp only [Scene.step, Scene.make, if_pos free, told]
  rw [run_cons, begun]
  simp only [run_cons, run_nil, Scene.step, Scene.make, Scene.goOn, joined, ← free]

/-- What the reader has read since it closed is the beginning of what there was to read, and all of
it once a call was refused. -/
private theorem Follows.told (follows : t.Follows u) :
    ∃ (read : List kind.Record) (refusals : List (Bool × Option kind.Record)),
      u.answers = t.answers ++ read.map (fun r => (true, some r)) ++ refusals ∧
      (∀ a ∈ refusals, a.1 = false) ∧ read <+: (outlook t.cursor).1 ∧
      (refusals ≠ [] → (read, u.cursor.failure) = outlook t.cursor) := by
  obtain ⟨-, -, -, read, refusals, given, refused, stopped, whole⟩ := follows
  refine ⟨read, refusals, given, refused, ?_, ?_⟩
  · rw [← whole]
    exact List.prefix_append _ _
  · intro some
    rw [← whole, outlook_of_stopped (stopped some), List.append_nil]

/-- In every course of a feed and its reader: while the reader closes, nothing that it is shown
changes, and the call returns once the producer has ended. If nothing is sent from then on, no call
waits, and the calls yield the records of the logs that were queued when the call to close returned,
in order, up to the first log that is none, and are refused after that; none is yielded if a call was
refused before. The feed's failure stays as it was, and to close again does nothing. -/
theorem closing_course (event : Abi.Event) (capacity : Nat) (before : List Act) :
    let s : Scene kind := (start event capacity).run before
    ∀ meanwhile : List (Option Feed.Act), s.stage = .free →
    let t := s.run (.move .close :: meanwhile.map during)
    s.Shuts t ∧
    (t.stage = .closing →
      (t.goOn.stage = .free ↔ t.cursor.feed.subscription.isRunning = false)) ∧
    (t.stage = .free →
      ∃ (records : List kind.Record) (fault : Option ContractError),
      ((∀ a ∈ s.answers, a.1 = true) →
        (records, fault) = kind.readThrough t.cursor.event t.cursor.feed.logs.items) ∧
      ((∃ a ∈ s.answers, a.1 = false) →
        records = [] ∧ fault = s.cursor.failure ∧ t.cursor.next? = some (false, t.cursor)) ∧
      ∀ later : List Act,
        let u := t.run later
        u.ledger.accepted = t.ledger.accepted →
        (u.stage ≠ .free → u.goOn.stage = .free) ∧
        (u.stage = .free →
          u.run [.move .close, .move .step] = { u with closes := u.closes + 1 }) ∧
        u.cursor.feedFailure = s.cursor.feedFailure ∧
        ∃ (read : List kind.Record) (refusals : List (Bool × Option kind.Record)),
          u.answers = s.answers ++ read.map (fun r => (true, some r)) ++ refusals ∧
          (∀ a ∈ refusals, a.1 = false) ∧ read <+: records ∧
          (refusals ≠ [] → read = records ∧ u.cursor.failure = fault)) := by
  intro s meanwhile free t
  have sound : s.Sound := (sound_start event capacity).run before
  have shuts : s.Shuts t := shuts_meanwhile free meanwhile
  have shut : t.Sound := sound.run _
  have given := shut.refused
  rw [shuts.answers] at given
  refine ⟨shuts, goOn_closing_iff, ?_⟩
  intro done
  have closed : t.closes ≠ 0 := by
    rcases shuts.count with ⟨closing, -⟩ | ⟨-, one⟩
    · cases done.symm.trans closing
    · omega
  refine ⟨(outlook t.cursor).1, (outlook t.cursor).2, ?_, ?_, ?_⟩
  · intro yes
    apply outlook_of_going
    intro stopped
    obtain ⟨a, member, no⟩ := given.2 stopped
    cases no.symm.trans (yes a member)
  · intro no
    have stopped := given.1 no
    have refused : t.cursor.next? = some (false, t.cursor) := by
      rcases stopped with phase | phase <;> simp only [next?, heed, attempt?, phase]
    rw [outlook_of_stopped stopped]
    exact ⟨rfl, shuts.failure, refused⟩
  · intro later u unsent
    have follows : t.Follows u := (follows_self shut closed).run shut later unsent
    have later_sound : u.Sound := shut.run later
    obtain ⟨read, refusals, answers, refused, begun, whole⟩ := follows.told
    rw [shuts.answers] at answers
    refine ⟨follows.returns later_sound, follows.close_again,
      follows.feedFailure.trans shuts.feedFailure, read, refusals, answers, refused, begun, ?_⟩
    intro some
    have same := whole some
    rw [← same]
    exact ⟨rfl, rfl⟩

end NameRights.Cursor.Call.Scene
