/- NameRights/Proofs/Feed/ForwarderMoves
   digest: A forwarder waits only where there is nothing to do; every step moves something on. -/

import NameRights.Proofs.Feed.ForwarderCourse

set_option autoImplicit false
set_option relaxedAutoImplicit false

namespace NameRights

namespace Feed

def resultOf : Option ContractError → Except ContractError Unit
  | none => .ok ()
  | some e => .error e

end Feed

theorem Subscription.verdict?_eq_none_iff {s : Subscription} :
    s.verdict? = none ↔ s.failure = none ∧ s.isRunning = true := by
  unfold Subscription.verdict?
  cases s.failure with
  | some e => simp
  | none => simp

theorem Channel.pop?_eq_none_iff {α : Type} {c : Channel α} : c.pop? = none ↔ c.items = [] := by
  unfold Channel.pop?
  cases c.items with
  | nil => simp
  | cons a rest => simp

namespace Forwarder

variable {kind : EventKind} {f g : Forwarder kind} {part : Part}

/-- All that a forwarder can do while it forwards, by the part of a step that does it. -/
inductive Moves (f : Forwarder kind) : Part → Forwarder kind → Prop
  | quit (told : f.handle.isTold = true) : Moves f .quit (f.decide (.ok ()))
  | fail {e : ContractError} {subscription : Subscription} (fed : f.isFed = true)
      (verdict : f.feed.subscription.verdict? = some (some e, subscription)) :
      Moves f .verdict (Forwarder.decide (.error e) { f with feed.subscription := subscription })
  | finish {subscription : Subscription} (fed : f.isFed = true)
      (verdict : f.feed.subscription.verdict? = some (none, subscription)) :
      Moves f .verdict { f with isFed := false }
  | push {record : kind.Record} (held : f.held = some record) (heard : f.sink.hasReceiver = true)
      (room : f.sink.hasRoom = true) :
      Moves f .carry { f with sink := f.sink.push record, held := none }
  | unheard {record : kind.Record} (held : f.held = some record)
      (gone : f.sink.hasReceiver = false) : Moves f .carry (f.decide (.error .sinkClosed))
  | take {log : Log} {logs : Channel Log} {record : kind.Record} (free : f.held = none)
      (popped : f.feed.logs.pop? = some (log, logs))
      (decoded : kind.decode f.event log = .ok record) :
      Moves f .carry { f with feed.logs := logs, held := some record }
  | refuse {log : Log} {logs : Channel Log} {e : ContractError} (free : f.held = none)
      (popped : f.feed.logs.pop? = some (log, logs))
      (broken : kind.decode f.event log = .error e) :
      Moves f .carry (Forwarder.decide (.error e) { f with feed.logs := logs })
  | dry {failure : Option ContractError} {subscription : Subscription} (free : f.held = none)
      (empty : f.feed.logs.items = []) (closed : f.feed.logs.hasSender = false)
      (verdict : f.feed.subscription.verdict? = some (failure, subscription)) :
      Moves f .carry
        (Forwarder.decide (Feed.resultOf failure) { f with feed.subscription := subscription })

private theorem moves_of_heedVerdict (made : f.heedVerdict? = some g) : Moves f .verdict g := by
  unfold heedVerdict? at made
  by_cases fed : f.isFed = true
  · rw [if_pos fed] at made
    cases verdict : f.feed.subscription.verdict? with
    | none =>
      rw [verdict] at made
      cases made
    | some entry =>
      obtain ⟨failure, subscription⟩ := entry
      rw [verdict] at made
      cases failure with
      | some e =>
        cases made
        exact .fail fed verdict
      | none =>
        cases made
        have same := Subscription.eq_of_verdict_none verdict
        subst same
        exact .finish fed verdict
  · rw [if_neg fed] at made
    cases made

private theorem moves_of_push {record : kind.Record} (held : f.held = some record)
    (made : f.push? record = some g) : Moves f .carry g := by
  unfold push? at made
  split at made
  · rename_i unheard
    cases made
    exact .unheard held (by simpa using unheard)
  · rename_i heard
    split at made
    · rename_i room
      cases made
      exact .push held (by simpa using heard) room
    · cases made

private theorem moves_of_takeLog (free : f.held = none) (made : f.takeLog? = some g) :
    Moves f .carry g := by
  unfold takeLog? at made
  cases popped : f.feed.logs.pop? with
  | some entry =>
    obtain ⟨log, logs⟩ := entry
    rw [popped] at made
    cases decoded : kind.decode f.event log with
    | ok record =>
      simp only [decoded] at made
      cases made
      exact .take free popped decoded
    | error e =>
      simp only [decoded] at made
      cases made
      exact .refuse free popped decoded
  | none =>
    have empty := Channel.pop?_eq_none_iff.1 popped
    rw [popped] at made
    simp only at made
    split at made
    · cases made
    · rename_i closed
      obtain ⟨⟨failure, subscription⟩, verdict, rfl⟩ := Option.map_eq_some_iff.1 made
      have closed : f.feed.logs.hasSender = false := by simpa using closed
      exact .dry free empty closed verdict

theorem moves_of_part (forwarding : f.stage = .forwarding) (made : f.part? part = some g) :
    Moves f part g := by
  unfold part? at made
  rw [forwarding] at made
  cases part with
  | quit =>
    change f.heedQuit? = some g at made
    unfold heedQuit? at made
    split at made
    · rename_i told
      cases made
      exact .quit told
    · cases made
  | verdict => exact moves_of_heedVerdict made
  | carry =>
    change f.carryOn? = some g at made
    unfold carryOn? at made
    cases held : f.held with
    | none =>
      rw [held] at made
      exact moves_of_takeLog held made
    | some record =>
      rw [held] at made
      exact moves_of_push held made
  | leave => cases made

/-- Once the result is decided, a step lets go of feed and sink and then reports. -/
theorem leaves_of_part (decided : f.stage ≠ .forwarding) (made : f.part? part = some g) :
    (∃ result subscription, f.stage = .stopping result ∧
      f.feed.subscription.join? = some subscription ∧
      g = { f with feed := ⟨f.feed.logs.dropReceiver, subscription⟩, held := none,
                   sink := f.sink.closeSender, stage := .leaving result }) ∨
    ∃ result, f.stage = .leaving result ∧
      g = { f with handle := f.handle.exit result, stage := .gone } := by
  have made := step?_of_part decided made
  unfold step? at made
  cases stage : f.stage with
  | forwarding => exact absurd stage decided
  | stopping result =>
    rw [stage] at made
    obtain ⟨subscription, joined, rfl⟩ := Option.map_eq_some_iff.1 made
    exact Or.inl ⟨result, subscription, rfl, joined, rfl⟩
  | leaving result =>
    rw [stage] at made
    cases made
    exact Or.inr ⟨result, rfl, rfl⟩
  | gone =>
    rw [stage] at made
    cases made

private theorem heedQuit?_eq_none_iff : f.heedQuit? = none ↔ f.handle.isTold = false := by
  unfold heedQuit?
  cases f.handle.isTold <;> simp

private theorem heedVerdict?_eq_none_iff :
    f.heedVerdict? = none ↔ (f.isFed = true → f.feed.subscription.verdict? = none) := by
  unfold heedVerdict?
  by_cases fed : f.isFed = true
  · rw [if_pos fed]
    cases verdict : f.feed.subscription.verdict? with
    | none => simp
    | some entry =>
      obtain ⟨failure, subscription⟩ := entry
      cases failure <;> simp [fed]
  · simp [fed]

private theorem takeLog?_eq_none_iff : f.takeLog? = none ↔ f.feed.logs.items = [] ∧
    (f.feed.logs.hasSender = true ∨ f.feed.subscription.verdict? = none) := by
  unfold takeLog?
  rw [← Channel.pop?_eq_none_iff]
  cases popped : f.feed.logs.pop? with
  | some entry => simp
  | none =>
    cases sender : f.feed.logs.hasSender with
    | true => simp
    | false => simp

private theorem push?_eq_none_iff {record : kind.Record} :
    f.push? record = none ↔ f.sink.hasReceiver = true ∧ f.sink.hasRoom = false := by
  unfold push?
  cases f.sink.hasReceiver with
  | false => simp
  | true => cases f.sink.hasRoom <;> simp

private theorem carryOn?_eq_none_iff : f.carryOn? = none ↔
    (f.held = none ∧ f.feed.logs.items = [] ∧
      (f.feed.logs.hasSender = true ∨ f.feed.subscription.verdict? = none)) ∨
    (f.held ≠ none ∧ f.sink.hasReceiver = true ∧ f.sink.hasRoom = false) := by
  unfold carryOn?
  cases f.held with
  | none => simp [takeLog?_eq_none_iff]
  | some record => simp [push?_eq_none_iff]

theorem step?_eq_none_iff (forwarding : f.stage = .forwarding) : f.step? = none ↔
    f.handle.isTold = false ∧
    (f.isFed = true → f.feed.subscription.verdict? = none) ∧
    ((f.held = none ∧ f.feed.logs.items = [] ∧
      (f.feed.logs.hasSender = true ∨ f.feed.subscription.verdict? = none)) ∨
    (f.held ≠ none ∧ f.sink.hasReceiver = true ∧ f.sink.hasRoom = false)) := by
  have whole : f.step? = f.heedQuit?.or (f.heedVerdict?.or f.carryOn?) := by
    simp only [step?, forwarding, forward?]
  rw [whole, Option.or_eq_none_iff, Option.or_eq_none_iff, heedQuit?_eq_none_iff,
    heedVerdict?_eq_none_iff, carryOn?_eq_none_iff]

namespace Scene

variable {event : Abi.Event} {s t : Scene kind}

theorem Holds.result_eq_none_iff (holds : s.Holds event) :
    s.result = none ↔ s.forwarder.stage = .forwarding := by
  rcases holds.forwarding_or_settled with ⟨forwarding, undecided, -⟩ | ⟨decided, result, settled⟩
  · exact ⟨fun _ => forwarding, fun _ => undecided⟩
  · constructor
    · intro undecided
      cases undecided.symm.trans settled.decided
    · intro forwarding
      exact absurd forwarding decided

/-- A producer has ended well once the forwarder goes on without it. -/
private def Heeds (s : Scene kind) : Prop :=
  s.forwarder.isFed = false → ∃ k, s.ledger.ended = some (k, .ok ())

private theorem isFed_part {part : Part} (made : s.forwarder.part? part = some f) :
    f.isFed = s.forwarder.isFed ∨
      s.forwarder.stage = .forwarding ∧ s.forwarder.isFed = true ∧ f.isFed = false ∧
        ∃ subscription, s.forwarder.feed.subscription.verdict? = some (none, subscription) := by
  by_cases forwarding : s.forwarder.stage = .forwarding
  · cases moves_of_part forwarding made with
    | finish fed verdict => exact Or.inr ⟨forwarding, fed, rfl, _, verdict⟩
    | quit told => exact Or.inl rfl
    | fail fed verdict => exact Or.inl rfl
    | push held heard room => exact Or.inl rfl
    | unheard held gone => exact Or.inl rfl
    | take free popped decoded => exact Or.inl rfl
    | refuse free popped broken => exact Or.inl rfl
    | dry free empty closed verdict => exact Or.inl rfl
  · rcases leaves_of_part forwarding made with ⟨result, subscription, -, -, rfl⟩ | ⟨result, -, rfl⟩
    · exact Or.inl rfl
    · exact Or.inl rfl

private theorem Holds.ended_well (holds : s.Holds event)
    (forwarding : s.forwarder.stage = .forwarding) {subscription : Subscription}
    (verdict : s.forwarder.feed.subscription.verdict? = some (none, subscription)) :
    ∃ k, s.ledger.ended = some (k, .ok ()) := by
  have standing := holds.standing
  rw [forwarding] at standing
  obtain ⟨k, result, ended, none⟩ := holds.fits.verdict standing.2.2.1 verdict
  cases result with
  | ok u => exact ⟨k, ended⟩
  | error e => cases none

private theorem Heeds.step (heeds : s.Heeds) (holds : s.Holds event) (act : Act) :
    (s.step act).Heeds := by
  cases act with
  | outside act =>
    intro unfed
    obtain ⟨k, ended⟩ := heeds unfed
    exact ⟨k, holds.fits.ended_note ended act⟩
  | receive =>
    simp only [Scene.step]
    split <;> exact heeds
  | dropSink => exact heeds
  | cancel => exact heeds
  | part part =>
    simp only [Scene.step]
    cases made : s.forwarder.part? part with
    | none => exact heeds
    | some f =>
      intro unfed
      have same : (s.moved f).ledger.ended = s.ledger.ended := Feed.Ledger.ended_watch _ _
      change ∃ k, (s.moved f).ledger.ended = some (k, .ok ())
      rw [same]
      rcases isFed_part made with kept | ⟨forwarding, -, -, subscription, verdict⟩
      · exact heeds (kept.symm.trans unfed)
      · exact holds.ended_well forwarding verdict

private theorem Heeds.run (heeds : s.Heeds) (holds : s.Holds event) (acts : List Act) :
    (s.run acts).Heeds := by
  induction acts generalizing s with
  | nil => exact heeds
  | cons act acts ih => exact ih (heeds.step holds act) (holds.step act)

private theorem unfed_step (unfed : s.forwarder.isFed = false) (act : Act) :
    (s.step act).forwarder.isFed = false := by
  cases act with
  | outside act => exact unfed
  | receive =>
    simp only [Scene.step]
    split <;> exact unfed
  | dropSink => exact unfed
  | cancel => exact unfed
  | part part =>
    simp only [Scene.step]
    cases made : s.forwarder.part? part with
    | none => exact unfed
    | some f =>
      rcases isFed_part made with kept | ⟨-, fed, -⟩
      · exact kept.trans unfed
      · cases fed.symm.trans unfed

private theorem unfed_run (unfed : s.forwarder.isFed = false) (acts : List Act) :
    (s.run acts).forwarder.isFed = false := by
  induction acts generalizing s with
  | nil => exact unfed
  | cons act acts ih => exact ih (unfed_step unfed act)

/-- Nothing is there to do: nobody says to quit, the producer has not failed, and either no log is
queued and more may come or the producer still runs, or a record is held that the sink has no room
for. -/
structure Waits (s : Scene kind) : Prop where
  untold : s.forwarder.handle.isTold = false
  unfailed : ∀ k e, s.ledger.ended ≠ some (k, .error e)
  stuck :
    (s.forwarder.held = none ∧ s.forwarder.feed.logs.items = [] ∧
      (s.forwarder.feed.logs.hasSender = true ∨ s.ledger.ended = none)) ∨
    (s.forwarder.held ≠ none ∧ s.forwarder.sink.hasReceiver = true ∧
      s.forwarder.sink.hasRoom = false)

/-- What a step comes to: a log is taken, whose record is held unless it is none; or a record is
pushed; or the producer's good end is recorded; or the result is decided. -/
inductive Advances (s t : Scene kind) : Prop
  | takes (log : Log) (next : s.ledger.accepted[s.ledger.taken.length]? = some log)
      (taken : t.ledger.taken = s.ledger.taken ++ [log]) (pushed : t.pushed = s.pushed)
      (read : t.result = none ∧
          (∃ record, kind.decode s.forwarder.event log = .ok record ∧
            t.forwarder.held = some record) ∨
        ∃ e, kind.decode s.forwarder.event log = .error e ∧ t.result = some (.error e))
  | pushes (record : kind.Record) (held : s.forwarder.held = some record)
      (taken : t.ledger.taken = s.ledger.taken) (pushed : t.pushed = s.pushed ++ [record])
      (undecided : t.result = none)
  | records (fed : s.forwarder.isFed = true) (ended : ∃ k, s.ledger.ended = some (k, .ok ()))
      (recorded : t.forwarder.isFed = false) (taken : t.ledger.taken = s.ledger.taken)
      (pushed : t.pushed = s.pushed) (undecided : t.result = none)
  | decides (result : Except ContractError Unit) (decided : t.result = some result)
      (taken : t.ledger.taken = s.ledger.taken) (pushed : t.pushed = s.pushed)

private theorem Holds.verdict?_eq_none_iff (holds : s.Holds event)
    (forwarding : s.forwarder.stage = .forwarding) :
    s.forwarder.feed.subscription.verdict? = none ↔ s.ledger.ended = none := by
  have standing := holds.standing
  rw [forwarding] at standing
  have unread := standing.2.2.1
  have running := holds.fits.running
  rw [Subscription.verdict?_eq_none_iff, running, Option.isNone_iff_eq_none]
  constructor
  · exact fun silent => silent.2
  · intro going
    refine ⟨?_, going⟩
    cases failed : s.forwarder.feed.subscription.failure with
    | none => rfl
    | some e =>
      obtain ⟨k, ended⟩ := holds.fits.reported e failed
      cases going.symm.trans ended

/-- A forwarder that has not decided cannot step exactly if nothing is there to do and the
producer's good end, if there was one, is recorded. -/
private theorem Holds.step?_eq_none_iff (holds : s.Holds event) (heeds : s.Heeds)
    (undecided : s.result = none) : s.forwarder.step? = none ↔
      s.Waits ∧ (s.forwarder.isFed = true → s.ledger.ended = none) := by
  have forwarding := holds.result_eq_none_iff.1 undecided
  rw [Forwarder.step?_eq_none_iff forwarding, holds.verdict?_eq_none_iff forwarding]
  constructor
  · rintro ⟨untold, unheeded, stuck⟩
    refine ⟨⟨untold, ?_, stuck⟩, unheeded⟩
    intro k e ended
    cases fed : s.forwarder.isFed with
    | true => cases (unheeded fed).symm.trans ended
    | false =>
      obtain ⟨k', ended'⟩ := heeds fed
      cases ended.symm.trans ended'
  · rintro ⟨waits, unheeded⟩
    exact ⟨waits.untold, unheeded, waits.stuck⟩

private theorem taken_moved (logs : f.feed.logs = s.forwarder.feed.logs) :
    (s.moved f).ledger.taken = s.ledger.taken := by
  simp only [moved, logs, Feed.Ledger.watch_self]

private theorem result_decide (undecided : s.result = none) (result : Except ContractError Unit) :
    (s.moved (f.decide result)).result = some result := by
  simp only [moved, undecided, Option.none_or]
  rfl

private theorem advances_decide (undecided : s.result = none)
    (logs : f.feed.logs = s.forwarder.feed.logs) (sink : f.sink.items = s.forwarder.sink.items)
    (result : Except ContractError Unit) : s.Advances (s.moved (f.decide result)) :=
  .decides result (result_decide undecided result) (taken_moved logs) (pushed_moved sink)

private theorem Holds.advances (holds : s.Holds event) (undecided : s.result = none) {part : Part}
    (made : s.forwarder.part? part = some f) : s.Advances (s.moved f) := by
  have forwarding := holds.result_eq_none_iff.1 undecided
  have standing := holds.standing
  rw [forwarding] at standing
  have attached := standing.2.1
  have still {g : Forwarder kind} (same : g.stage = s.forwarder.stage) :
      (s.moved g).result = none :=
    (result_moved (same.trans forwarding)).trans undecided
  cases moves_of_part forwarding made with
  | quit told => exact advances_decide undecided rfl rfl _
  | @fail e subscription fed verdict =>
    exact advances_decide (f := { s.forwarder with feed.subscription := subscription }) undecided
      rfl rfl _
  | finish fed verdict =>
    have ended := holds.ended_well forwarding verdict
    exact .records fed ended rfl (taken_moved rfl) (pushed_moved rfl) (still rfl)
  | @push record held heard room =>
    refine .pushes record held (taken_moved rfl) ?_ (still rfl)
    simp only [moved, Channel.push, List.drop_left]
  | unheard held gone => exact advances_decide undecided rfl rfl _
  | @take log logs record free popped decoded =>
    obtain ⟨-, taken, next, -⟩ := holds.fits.pop attached popped
    exact .takes log next taken (pushed_moved rfl) (Or.inl ⟨still rfl, record, decoded, rfl⟩)
  | @refuse log logs e free popped broken =>
    obtain ⟨-, taken, next, -⟩ := holds.fits.pop attached popped
    exact .takes log next taken (pushed_moved rfl)
      (Or.inr ⟨e, broken, result_decide undecided (.error e)⟩)
  | @dry failure subscription free empty closed verdict =>
    exact advances_decide (f := { s.forwarder with feed.subscription := subscription }) undecided
      rfl rfl _

/-- In every course of a feed, its forwarder and the forwarder's owner, as long as no result is
decided: the forwarder cannot step exactly if nothing is there to do and the producer's good end, if
there was one, is recorded; and each part of a step takes a log, pushes a record, records that end
or decides the result. The end is recorded once. -/
theorem waiting_course (event : Abi.Event) (feedCapacity sinkCapacity : Nat) (acts : List Act) :
    let s : Scene kind := (start event feedCapacity sinkCapacity).run acts
    (s.result = none →
      (s.forwarder.step? = none ↔
        s.Waits ∧ (s.forwarder.isFed = true → s.ledger.ended = none)) ∧
      ∀ part f, s.forwarder.part? part = some f → s.Advances (s.moved f)) ∧
    (s.forwarder.isFed = false → ∀ more, (s.run more).forwarder.isFed = false) := by
  intro s
  have begun : (start event feedCapacity sinkCapacity : Scene kind).Holds event :=
    holds_start event feedCapacity sinkCapacity
  have fed : (start event feedCapacity sinkCapacity : Scene kind).Heeds :=
    fun unfed => nomatch unfed
  have holds : s.Holds event := begun.run acts
  have heeds : s.Heeds := fed.run begun acts
  refine ⟨?_, unfed_run⟩
  intro undecided
  refine ⟨holds.step?_eq_none_iff heeds undecided, ?_⟩
  intro part f made
  exact holds.advances undecided made

end Scene

end Forwarder

end NameRights
