/- NameRights/Proofs/Node/LineRest
   digest: A line goes on until its poller and its forwarder wait, and a poller that waits for time
   or an answer has an alarm, unless the operator is going to interrupt. -/

import NameRights.Proofs.Node.Supplying

set_option autoImplicit false
set_option relaxedAutoImplicit false

namespace NameRights

private theorem settle_eq_none {σ : Type} {step? : σ → Option σ} {left : σ → Nat}
    (less : ∀ s t, step? s = some t → left t < left s) {s : σ} {fuel : Nat}
    (enough : left s ≤ fuel) : step? (settle step? fuel s) = none := by
  induction fuel generalizing s with
  | zero =>
    unfold settle
    cases made : step? s with
    | none => rfl
    | some t =>
      have lower := less s t made
      omega
  | succ fuel ih =>
    unfold settle
    cases made : step? s with
    | none => exact made
    | some t =>
      have lower := less s t made
      exact ih (by omega)

/-! What is left to do without time and without an answer. -/

namespace Poller

private def left (p : Poller) : Nat :=
  match p.phase with
  | .delivering logs => logs.length + 3
  | .resting | .asking => 2
  | .leaving _ => 1
  | .forgetting _ | .gone => 0

private theorem left_le_work (p : Poller) : p.left ≤ p.work := by
  unfold left work
  cases p.phase <;> simp

private theorem left_step {p q : Poller} {feed after : Feed} {request : Option Request}
    (made : p.step? feed = some (request, q, after)) :
    q.left < p.left ∧
      2 * after.logs.items.length + 3 * q.left < 2 * feed.logs.items.length + 3 * p.left := by
  have leaves (more : 2 ≤ p.left) : (p.leave (.ok ()) feed).1.left < p.left ∧
      2 * (p.leave (.ok ()) feed).2.logs.items.length + 3 * (p.leave (.ok ()) feed).1.left <
        2 * feed.logs.items.length + 3 * p.left := by
    have last : (p.leave (.ok ()) feed).1.left = 1 := rfl
    have items : (p.leave (.ok ()) feed).2.logs.items = feed.logs.items := rfl
    rw [last, items]
    omega
  cases steps_of_step made with
  | quit told sending =>
    apply leaves
    unfold isSending at sending
    unfold left
    cases phase : p.phase <;> simp_all
  | rest phase =>
    simp only [left, phase, List.length_nil]
    omega
  | @unheard log rest phase gone =>
    apply leaves
    simp only [left, phase, List.length_cons]
    omega
  | @deliver log rest phase heard room =>
    simp only [left, phase, Channel.push, List.length_append, List.length_cons, List.length_nil]
    omega
  | forget phase =>
    simp only [left, phase]
    omega

end Poller

namespace Forwarder

variable {kind : EventKind} {f g : Forwarder kind}

def left (f : Forwarder kind) : Nat :=
  2 * f.feed.logs.items.length + f.held.toList.length + f.isFed.toNat + f.stage.left

private theorem left_le_work (f : Forwarder kind) : f.left ≤ f.work := by
  have held : f.held.toList.length ≤ 1 := by cases f.held <;> simp
  have fed := Bool.toNat_le f.isFed
  have stage : f.stage.left ≤ 3 := by cases f.stage <;> simp [Stage.left]
  unfold left work
  omega

private theorem left_step (made : f.step? = some g) : g.left < f.left := by
  obtain ⟨part, made⟩ := exists_part_of_step made
  by_cases forwarding : f.stage = .forwarding
  · cases moves_of_part forwarding made with
    | quit told => simp [left, decide, Stage.left, forwarding]
    | fail fed verdict => simp [left, decide, Stage.left, forwarding]
    | finish fed verdict => simp [left, fed]
    | push held heard room => simp [left, held]
    | unheard held gone => simp [left, decide, Stage.left, forwarding]
    | take free popped decoded =>
      have items := (Channel.pop?_eq_some_iff.1 popped).1
      simp only [left, items, free, List.length_cons, Option.toList_some, Option.toList_none,
        List.length_nil]
      omega
    | refuse free popped broken =>
      have items := (Channel.pop?_eq_some_iff.1 popped).1
      simp only [left, decide, Stage.left, forwarding, items, List.length_cons]
      omega
    | dry free empty closed verdict => simp [left, decide, Stage.left, forwarding]
  · rcases leaves_of_part forwarding made with ⟨result, subscription, stage, -, rfl⟩ |
      ⟨result, stage, rfl⟩
    · simp only [left, stage, Stage.left, Channel.dropReceiver, List.length_nil,
        Option.toList_none]
      omega
    · simp [left, stage, Stage.left]

end Forwarder

namespace Clock

def willInterrupt (clock : Clock) : Bool := clock.interruption.isSome

/-- A clock later on: what is known of the interruption remains known. -/
private def Later (clock later : Clock) : Prop :=
  clock.willInterrupt = true → later.willInterrupt = true

private theorem ask_cases (r : Request) (clock : Clock) :
    clock.Later (clock.ask r).2 ∧
      ((∃ due reply, (clock.ask r).1 = some (due, .reply reply)) ∨
        (clock.ask r).2.willInterrupt = true) := by
  unfold ask Later willInterrupt
  simp only
  split
  · exact ⟨id, Or.inl ⟨_, _, rfl⟩⟩
  · cases clock.interruption with
    | none => exact ⟨fun _ => rfl, Or.inr rfl⟩
    | some due => exact ⟨id, Or.inr rfl⟩

end Clock

namespace Line

variable {kind : EventKind} {clock : Clock} {line : Line kind}

/-- Neither the poller nor the forwarder can take a step. -/
structure IsStill (line : Line kind) : Prop where
  poller : line.poller.step? line.tap.feed = none
  forwarder : line.tap.step? = none

/-- What a poller waits for will come: a rest has its end, and a request its answer, unless the
operator is going to interrupt. -/
def IsArmed (clock : Clock) (line : Line kind) : Prop :=
  match line.poller.phase with
  | .resting => ∃ due, line.alarm = some (due, .wake)
  | .asking | .forgetting _ =>
    (∃ due reply, line.alarm = some (due, .reply reply)) ∨ clock.willInterrupt = true
  | .delivering _ | .leaving _ | .gone => True

private theorem step?_eq_none_iff : Line.step? (clock, line) = none ↔ line.IsStill := by
  unfold Line.step?
  simp only
  constructor
  · intro waits
    cases stepped : line.poller.step? line.tap.feed with
    | some entry =>
      obtain ⟨request, poller, feed⟩ := entry
      rw [stepped] at waits
      cases request <;> cases waits
    | none =>
      rw [stepped] at waits
      exact ⟨stepped, Option.map_eq_none_iff.1 waits⟩
  · rintro ⟨poller, forwarder⟩
    rw [poller]
    exact Option.map_eq_none_iff.2 forwarder

/-- What is left to do at a tap, apart from its consumer. -/
private def tapLeft : Tap kind → Nat
  | .raw _ => 0
  | .decoded f => f.left

private theorem left_step {entry next : Clock × Line kind} (made : Line.step? entry = some next) :
    3 * next.2.poller.left + tapLeft next.2.tap <
      3 * entry.2.poller.left + tapLeft entry.2.tap := by
  obtain ⟨clock, line⟩ := entry
  unfold Line.step? at made
  simp only at made
  cases stepped : line.poller.step? line.tap.feed with
  | some entry =>
    obtain ⟨request, poller, feed⟩ := entry
    have less := Poller.left_step stepped
    have moved : next.2.poller = poller ∧ next.2.tap = line.tap.withFeed feed := by
      rw [stepped] at made
      cases request <;> (cases made; exact ⟨rfl, rfl⟩)
    rw [moved.1, moved.2]
    cases held : line.tap with
    | raw feed' =>
      simp only [Tap.withFeed, tapLeft]
      omega
    | decoded f =>
      rw [held] at less
      simp only [Tap.feed] at less
      simp only [Tap.withFeed, tapLeft, Forwarder.left]
      omega
  | none =>
    rw [stepped] at made
    obtain ⟨tap, forwarded, rfl⟩ := Option.map_eq_some_iff.1 made
    cases held : line.tap with
    | raw feed =>
      rw [held] at forwarded
      cases forwarded
    | decoded f =>
      rw [held] at forwarded
      obtain ⟨g, stepped, rfl⟩ := Option.map_eq_some_iff.1 forwarded
      exact Nat.add_lt_add_left (Forwarder.left_step stepped) _

private theorem isStill_settle (clock : Clock) (line : Line kind) :
    (line.settle clock).2.IsStill := by
  have enough : 3 * line.poller.left + tapLeft line.tap ≤ line.work := by
    have poller := line.poller.left_le_work
    have tap : tapLeft line.tap ≤ line.tap.work := by
      cases line.tap with
      | raw feed => exact Nat.le_refl 0
      | decoded f => exact f.left_le_work
    unfold work
    omega
  have ended := settle_eq_none (s := (clock, line)) (fun _ _ => left_step) enough
  exact step?_eq_none_iff.1 ended

private theorem IsArmed.later {clock' : Clock} (armed : line.IsArmed clock)
    (after : clock.Later clock') :
    line.IsArmed clock' := by
  unfold IsArmed at armed ⊢
  cases phase : line.poller.phase with
  | resting => simpa only [phase] using armed
  | asking =>
    simp only [phase] at armed ⊢
    exact armed.imp_right after
  | forgetting result =>
    simp only [phase] at armed ⊢
    exact armed.imp_right after
  | delivering logs => trivial
  | leaving result => trivial
  | gone => trivial

private theorem IsArmed.step (armed : line.IsArmed clock) {next : Clock × Line kind}
    (made : Line.step? (clock, line) = some next) :
    next.2.IsArmed next.1 ∧ clock.Later next.1 := by
  unfold Line.step? at made
  simp only at made
  cases stepped : line.poller.step? line.tap.feed with
  | some entry =>
    obtain ⟨request, poller, feed⟩ := entry
    rw [stepped] at made
    cases Poller.steps_of_step stepped with
    | quit told sending =>
      cases made
      exact ⟨trivial, id⟩
    | rest phase =>
      cases made
      exact ⟨⟨_, rfl⟩, id⟩
    | unheard phase gone =>
      cases made
      exact ⟨trivial, id⟩
    | deliver phase heard room =>
      cases made
      exact ⟨trivial, id⟩
    | forget phase =>
      cases made
      obtain ⟨later, answered⟩ := Clock.ask_cases (Node.uninstallRequest line.poller.filter) clock
      exact ⟨answered, later⟩
  | none =>
    rw [stepped] at made
    obtain ⟨tap, -, rfl⟩ := Option.map_eq_some_iff.1 made
    exact ⟨armed, id⟩

private theorem IsArmed.settle (armed : line.IsArmed clock) :
    (line.settle clock).2.IsArmed (line.settle clock).1 ∧ clock.Later (line.settle clock).1 := by
  have begun : line.IsArmed clock ∧ clock.Later clock := ⟨armed, id⟩
  refine settle_induction (P := fun entry : Clock × Line kind =>
    entry.2.IsArmed entry.1 ∧ clock.Later entry.1) ?_ begun _
  rintro entry next ⟨armed, later⟩ made
  obtain ⟨armed', later'⟩ := armed.step made
  exact ⟨armed', later' ∘ later⟩

private theorem isArmed_hear (armed : line.IsArmed clock) {due : Nat} {stimulus : Reply}
    (alarm : line.alarm = some (due, .reply stimulus)) (reply : Reply) (tap : Tap kind)
    (clock' : Clock) : IsArmed clock'
      { line with poller := (line.poller.hear reply line.tap.feed).1, tap, alarm := none } := by
  unfold IsArmed at armed ⊢
  unfold Poller.hear
  cases phase : line.poller.phase with
  | resting =>
    simp only [phase, alarm] at armed
    obtain ⟨_, same⟩ := armed
    cases same
  | asking =>
    simp only
    cases Node.readPoll reply <;> trivial
  | forgetting result => trivial
  | delivering logs => simp only [phase]
  | leaving result => simp only [phase]
  | gone => simp only [phase]

private theorem IsArmed.stir (armed : line.IsArmed clock) :
    (line.stir clock).2.IsArmed (line.stir clock).1 ∧ clock.Later (line.stir clock).1 := by
  unfold Line.stir
  cases alarm : line.alarm with
  | none => exact ⟨armed, id⟩
  | some entry =>
    obtain ⟨due, stimulus⟩ := entry
    simp only
    split
    · exact ⟨armed, id⟩
    · cases stimulus with
      | reply reply => exact (isArmed_hear armed alarm reply _ clock).settle
      | wake =>
        cases woken : line.poller.wake? with
        | none =>
          refine ⟨?_, id⟩
          unfold IsArmed at armed ⊢
          unfold Poller.wake? at woken
          cases phase : line.poller.phase with
          | resting => simp [phase] at woken
          | asking => simpa [phase, alarm] using armed
          | forgetting result => simpa [phase, alarm] using armed
          | delivering logs => trivial
          | leaving result => trivial
          | gone => trivial
        | some entry =>
          obtain ⟨request, poller⟩ := entry
          obtain ⟨-, rfl⟩ := Poller.phase_of_wake woken
          obtain ⟨later, answered⟩ := Clock.ask_cases request clock
          have asking : IsArmed (clock.ask request).2 { line with
              poller := { line.poller with phase := .asking }, alarm := (clock.ask request).1 } :=
            answered
          obtain ⟨armed', later'⟩ := asking.settle
          exact ⟨armed', later' ∘ later⟩

private theorem IsStill.stir (still : line.IsStill) (clock : Clock) :
    (line.stir clock).2.IsStill := by
  unfold Line.stir
  cases line.alarm with
  | none => exact still
  | some entry =>
    obtain ⟨due, stimulus⟩ := entry
    simp only
    split
    · exact still
    · cases stimulus with
      | reply reply => exact isStill_settle _ _
      | wake =>
        cases line.poller.wake? with
        | none => exact ⟨still.poller, still.forwarder⟩
        | some entry => exact isStill_settle _ _

/-- A poller that waits although no alarm is set has ended or waits for room, unless the operator is
going to interrupt. -/
theorem IsArmed.phase_of_still (armed : line.IsArmed clock) (still : line.IsStill)
    (silent : line.alarm = none) : clock.willInterrupt = true ∨ line.poller.phase = .gone ∨
      ∃ logs, line.poller.phase = .delivering logs := by
  have waits := still.poller
  unfold IsArmed at armed
  cases phase : line.poller.phase with
  | resting => simp [phase, silent] at armed
  | asking => exact Or.inl (by simpa [phase, silent] using armed)
  | forgetting result => exact Or.inl (by simpa [phase, silent] using armed)
  | delivering logs => exact Or.inr (Or.inr ⟨logs, rfl⟩)
  | leaving result => simp [Poller.step?, phase] at waits
  | gone => exact Or.inr (Or.inl rfl)

end Line

private theorem Channel.items_of_full {α : Type} {c : Channel α} (room : 0 < c.capacity)
    (full : c.hasRoom = false) : c.items ≠ [] := by
  intro empty
  rw [hasRoom, empty, List.length_nil, decide_eq_true room] at full
  cases full

/-- Where a poller has ended or waits for room and the forwarder waits as well, the forwarder is
gone or has filled the sink. -/
theorem Forwarder.Scene.Shows.gone_or_full {kind : EventKind} {s : Scene kind} {p : Poller}
    {tap : Tap kind} (shows : s.Shows p tap) (settled : p.step? s.forwarder.feed = none)
    (waits : s.forwarder.step? = none)
    (phase : p.phase = .gone ∨ ∃ logs, p.phase = .delivering logs) :
    s.forwarder.stage = .gone ∨ s.forwarder.stage = .forwarding ∧ s.forwarder.sink.items ≠ [] := by
  have ended (gone : p.phase = .gone) : s.forwarder.feed.logs.hasSender = false ∧
      s.forwarder.feed.subscription.isRunning = false := by
    refine ⟨shows.serves.sender.trans ?_, shows.serves.ended gone⟩
    rw [Poller.isSending, gone]
  have crowded {logs : List Log} (delivering : p.phase = .delivering logs) :
      s.forwarder.feed.subscription.isTold = false ∧ s.forwarder.feed.logs.items ≠ [] := by
    cases told : s.forwarder.feed.subscription.isTold with
    | true => simp [Poller.step?, delivering, told] at settled
    | false =>
      refine ⟨rfl, Channel.items_of_full shows.feedRoom ?_⟩
      cases logs with
      | nil => simp [Poller.step?, delivering, told] at settled
      | cons log rest =>
        cases heard : s.forwarder.feed.logs.hasReceiver with
        | false => simp [Poller.step?, delivering, told, heard] at settled
        | true => simpa [Poller.step?, delivering, told, heard] using settled
  cases stage : s.forwarder.stage with
  | gone => exact Or.inl rfl
  | leaving result => simp [step?, stage] at waits
  | stopping result =>
    have running : s.forwarder.feed.subscription.isRunning = true := by
      simpa [step?, stage, Subscription.join?] using waits
    rcases phase with gone | ⟨logs, delivering⟩
    · cases running.symm.trans (ended gone).2
    · cases (shows.telling result stage).symm.trans (crowded delivering).1
  | forwarding =>
    obtain ⟨-, -, ⟨-, empty, unended⟩ | ⟨-, -, full⟩⟩ := (step?_eq_none_iff stage).1 waits
    · rcases phase with gone | ⟨logs, delivering⟩
      · obtain ⟨closed, stopped⟩ := ended gone
        rcases unended with sender | open_
        · cases sender.symm.trans closed
        · cases (Subscription.verdict?_eq_none_iff.1 open_).2.symm.trans stopped
      · exact absurd empty (crowded delivering).2
    · exact Or.inr ⟨rfl, Channel.items_of_full shows.sinkRoom full⟩

namespace Timeline

variable {kind : EventKind} {t : Timeline kind} {clock : Clock} {lines : List (Line kind)}

def IsArmed (t : Timeline kind) : Prop := ∀ line ∈ t.lines, line.IsArmed t.clock

def IsStill (t : Timeline kind) : Prop := ∀ line ∈ t.lines, line.IsStill

private theorem armed_each {f : Clock → Line kind → Clock × Line kind}
    (kept : ∀ clock line, line.IsArmed clock →
      (f clock line).2.IsArmed (f clock line).1 ∧ clock.Later (f clock line).1)
    (armed : ∀ line ∈ lines, line.IsArmed clock) :
    (each f clock lines).IsArmed ∧ clock.Later (each f clock lines).clock := by
  induction lines generalizing clock with
  | nil => exact ⟨fun _ none => (nomatch none), id⟩
  | cons line lines ih =>
    obtain ⟨first, later⟩ := kept clock line (armed line List.mem_cons_self)
    have onward : ∀ other ∈ lines, other.IsArmed (f clock line).1 := fun other member =>
      (armed other (List.mem_cons_of_mem _ member)).later later
    obtain ⟨others, later'⟩ := ih onward
    refine ⟨?_, later' ∘ later⟩
    intro other member
    rcases List.mem_cons.1 member with rfl | member
    · exact first.later later'
    · exact others other member

private theorem still_each {f : Clock → Line kind → Clock × Line kind} {P : Line kind → Prop}
    (kept : ∀ clock line, P line → (f clock line).2.IsStill) (holds : ∀ line ∈ lines, P line) :
    (each f clock lines).IsStill := by
  induction lines generalizing clock with
  | nil => exact fun _ none => nomatch none
  | cons line lines ih =>
    intro other member
    rcases List.mem_cons.1 member with rfl | member
    · exact kept clock line (holds line List.mem_cons_self)
    · exact ih (fun other member => holds other (List.mem_cons_of_mem _ member)) other member

theorem IsArmed.settle (armed : t.IsArmed) : t.settle.IsArmed :=
  (armed_each (fun _ _ => Line.IsArmed.settle) armed).1

theorem isStill_settle (t : Timeline kind) : t.settle.IsStill :=
  still_each (P := fun _ => True) (fun clock line _ => line.isStill_settle clock)
    fun _ _ => trivial

theorem IsArmed.advance (armed : t.IsArmed) {t' : Timeline kind} (made : t.advance? = some t') :
    t'.IsArmed := by
  obtain ⟨due, -, rfl⟩ := Option.map_eq_some_iff.1 made
  have onward : ∀ line ∈ t.lines, line.IsArmed { t.clock with now := max t.clock.now due } :=
    armed
  exact (armed_each (fun _ _ => Line.IsArmed.stir) onward).1

theorem IsStill.advance (still : t.IsStill) {t' : Timeline kind} (made : t.advance? = some t') :
    t'.IsStill := by
  obtain ⟨due, -, rfl⟩ := Option.map_eq_some_iff.1 made
  exact still_each (fun clock _ still => still.stir clock) still

private theorem IsArmed.runUntil (armed : t.IsArmed) (due fuel : Nat) :
    (t.runUntil due fuel).IsArmed := by
  induction fuel generalizing t with
  | zero => exact armed
  | succ fuel ih =>
    unfold Timeline.runUntil
    split
    · cases made : t.advance? with
      | none => exact armed
      | some t' => exact ih (armed.advance made)
    · exact armed

theorem IsArmed.converse {ε α : Type} (armed : t.IsArmed)
    (session : Session Request (fun _ => Reply) ε α) : (t.converse session).2.IsArmed := by
  induction session generalizing t with
  | done x => exact armed
  | ask request next ih =>
    have sent : IsArmed ⟨(t.clock.ask request).2, t.lines⟩ := fun line member =>
      (armed line member).later (Clock.ask_cases request t.clock).1
    unfold Timeline.converse
    simp only
    split
    · exact ih _ (sent.runUntil _ _)
    · exact ih _ sent

/-- Where time does not go on, no alarm is set, and an interruption that is known has come. -/
theorem quiet_of_advance (stopped : t.advance? = none) :
    (∀ line ∈ t.lines, line.alarm = none) ∧
      (t.clock.willInterrupt = true → t.clock.isInterrupted = true) := by
  have none : t.dues = [] := List.min?_eq_none_iff.1 (Option.map_eq_none_iff.1 stopped)
  obtain ⟨alarms, interruption⟩ := List.append_eq_nil_iff.1 none
  constructor
  · intro line member
    have silent := List.filterMap_eq_nil_iff.1 alarms line member
    exact Option.map_eq_none_iff.1 silent
  · unfold Clock.willInterrupt Clock.isInterrupted
    cases known : t.clock.interruption with
    | none => simp
    | some due =>
      simp only [known] at interruption
      simpa [Option.filter] using interruption

end Timeline

end NameRights
