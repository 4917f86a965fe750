/- NameRights/Proofs/Feed/HandleCourse
   digest: In whatever order a handle is used, the producer's failure is told at most once, and the
   producer is told to quit at most once. -/

import NameRights.Proofs.Feed.Ledger

set_option autoImplicit false
set_option relaxedAutoImplicit false

namespace NameRights.Subscription

/-- What the holder of a handle is at: it is free to use the handle, or in a call to unsubscribe,
which has the handle to itself until it returns, or it has dropped the handle. -/
inductive Holder where
  | free
  | unsubscribing
  | gone
  deriving DecidableEq

/-- What happens to a handle: the producer ends with a result, told to quit or not; or the holder
asks for the verdict, calls to unsubscribe, looks in that call whether the producer has ended, or
drops the handle. -/
inductive Act where
  | exit (result : Except ContractError Unit)
  | ask
  | unsubscribe
  | join
  | drop

/-- A handle in use, with the result its producer ended with, the verdicts given before and after a
call to unsubscribe has returned, and the number of times the producer was told to quit. -/
structure Scene where
  handle : Subscription
  holder : Holder
  result : Option (Except ContractError Unit)
  early : List (Option ContractError)
  late : List (Option ContractError)
  isJoined : Bool
  signals : Nat

namespace Scene

def start : Scene := ⟨.started, .free, none, [], [], false, 0⟩

/-- Tells the producer to quit; one that was told before is not told again. -/
def signal (s : Scene) : Scene :=
  { s with handle := s.handle.tell
           signals := if s.handle.isTold then s.signals else s.signals + 1 }

def noted (verdict : Option ContractError) (s : Scene) : Scene :=
  if s.isJoined then { s with late := s.late ++ [verdict] }
  else { s with early := s.early ++ [verdict] }

def step (s : Scene) : Act → Scene
  | .exit result =>
    { s with handle := s.handle.exit result
             result := if s.handle.isRunning then some result else s.result }
  | .ask =>
    if s.holder = .free then
      match s.handle.verdict? with
      | none => s
      | some (verdict, handle) => { s with handle }.noted verdict
    else s
  | .unsubscribe => if s.holder = .free then { s.signal with holder := .unsubscribing } else s
  | .join =>
    if s.holder = .unsubscribing then
      match s.handle.join? with
      | none => s
      | some handle => { s with handle, holder := .free, isJoined := true }
    else s
  | .drop => if s.holder = .gone then s else { s.signal with holder := .gone }

def run (s : Scene) (acts : List Act) : Scene := acts.foldl step s

/-- The verdicts given by the end or after it, and the failure that is still to be told: the result
is told first, and nothing after that. -/
def Told (early : List (Option ContractError)) (failure : Option ContractError) :
    Option (Except ContractError Unit) → Prop
  | none => early = [] ∧ failure = none
  | some result =>
    (early = [] ∧ failure = Feed.failureOf result) ∨
      (∃ n, early = Feed.failureOf result :: List.replicate n none) ∧ failure = none

/-- What a call to unsubscribe leaves: the producer has ended, and no failure is to be told. -/
def IsSpent (handle : Subscription) : Prop :=
  handle.isTold = true ∧ handle.isRunning = false ∧ handle.failure = none

structure Holds (s : Scene) : Prop where
  running : s.handle.isRunning = s.result.isNone
  told : s.isJoined = false → Told s.early s.handle.failure s.result
  joined : s.isJoined = true → IsSpent s.handle ∧ ∃ failure, Told s.early failure s.result
  silent : ∀ verdict ∈ s.late, verdict = none
  signalled : s.holder ≠ .free → s.handle.isTold = true
  counted : s.signals = if s.handle.isTold then 1 else 0

private theorem holds_start : start.Holds :=
  ⟨rfl, fun _ => ⟨rfl, rfl⟩, Bool.noConfusion, fun _ given => (nomatch given),
    fun used => (used rfl).elim, rfl⟩

variable {s : Scene}

private theorem Told.exit {early : List (Option ContractError)} {handle : Subscription}
    (told : Told early handle.failure none) (running : handle.isRunning = true)
    (result : Except ContractError Unit) :
    Told early (handle.exit result).failure (some result) := by
  refine Or.inl ⟨told.1, ?_⟩
  unfold Subscription.exit
  rw [if_pos running]
  cases result <;> rfl

private theorem Told.verdict {early : List (Option ContractError)} {handle after : Subscription}
    {result : Option (Except ContractError Unit)} {verdict : Option ContractError}
    (told : Told early handle.failure result) (running : handle.isRunning = result.isNone)
    (given : handle.verdict? = some (verdict, after)) :
    Told (early ++ [verdict]) after.failure result ∧ after.isRunning = handle.isRunning ∧
      after.isTold = handle.isTold := by
  unfold verdict? at given
  cases ended : result with
  | none =>
    rw [ended] at told running
    rw [told.2, running] at given
    cases given
  | some r =>
    rw [ended] at told running
    rcases told with ⟨nothing, waiting⟩ | ⟨⟨n, all⟩, waiting⟩
    · rw [waiting, running] at given
      cases r with
      | ok u =>
        cases given
        exact ⟨Or.inr ⟨⟨0, by rw [nothing]; rfl⟩, waiting⟩, rfl, rfl⟩
      | error e =>
        cases given
        exact ⟨Or.inr ⟨⟨0, by rw [nothing]; rfl⟩, rfl⟩, running.symm, rfl⟩
    · rw [waiting, running] at given
      cases given
      refine ⟨Or.inr ⟨⟨n + 1, ?_⟩, waiting⟩, rfl, rfl⟩
      rw [all, List.replicate_succ', List.cons_append]

private theorem IsSpent.verdict? {handle : Subscription} (spent : IsSpent handle) :
    handle.verdict? = some (none, handle) := by
  simp only [Subscription.verdict?, spent.2.1, spent.2.2, Bool.false_eq_true, if_false]

theorem IsSpent.join? {handle : Subscription} (spent : IsSpent handle) :
    handle.join? = some handle := by
  obtain ⟨isTold, isRunning, failure⟩ := handle
  obtain ⟨rfl, rfl, rfl⟩ := spent
  rfl

theorem IsSpent.exit {handle : Subscription} (spent : IsSpent handle)
    (result : Except ContractError Unit) : handle.exit result = handle := by
  simp only [Subscription.exit, spent.2.1, Bool.false_eq_true, if_false]

theorem IsSpent.tell {handle : Subscription} (spent : IsSpent handle) : handle.tell = handle := by
  obtain ⟨isTold, isRunning, failure⟩ := handle
  obtain ⟨rfl, rfl, rfl⟩ := spent
  rfl

private theorem Holds.signal (holds : s.Holds) (holder : Holder) :
    { s.signal with holder }.Holds := by
  refine ⟨holds.running, holds.told, ?_, holds.silent, fun _ => rfl, ?_⟩
  · intro joined
    obtain ⟨⟨-, stopped, quiet⟩, told⟩ := holds.joined joined
    exact ⟨⟨rfl, stopped, quiet⟩, told⟩
  · have counted := holds.counted
    cases told : s.handle.isTold with
    | true =>
      rw [told, if_pos rfl] at counted
      simp only [Scene.signal, told, if_true, counted]
      rfl
    | false =>
      rw [told] at counted
      simp only [Scene.signal, told, Bool.false_eq_true, if_false, counted]
      rfl

private theorem Holds.exit (holds : s.Holds) (result : Except ContractError Unit) :
    (s.step (.exit result)).Holds := by
  by_cases running : s.handle.isRunning = true
  · have unended : s.result = none := by
      have known := holds.running
      rw [running] at known
      exact Option.isNone_iff_eq_none.1 known.symm
    have unjoined : s.isJoined = false := by
      apply Bool.eq_false_iff.2
      intro joined
      have stopped := (holds.joined joined).1.2.1
      rw [running] at stopped
      cases stopped
    have told := holds.told unjoined
    rw [unended] at told
    have later := told.exit running result
    have stopped := Subscription.isRunning_exit s.handle result
    simp only [step, running, if_true]
    refine ⟨stopped, fun _ => later, ?_, holds.silent, ?_, ?_⟩
    · intro joined
      rw [unjoined] at joined
      cases joined
    · intro used
      rw [isTold_exit]
      exact holds.signalled used
    · rw [isTold_exit]
      exact holds.counted
  · have same : s.step (.exit result) = s := by
      simp only [step, Subscription.exit, if_neg running]
    rw [same]
    exact holds

private theorem Holds.ask (holds : s.Holds) : (s.step .ask).Holds := by
  simp only [step]
  split
  · cases given : s.handle.verdict? with
    | none => exact holds
    | some entry =>
      obtain ⟨verdict, handle⟩ := entry
      simp only [noted]
      cases joined : s.isJoined with
      | true =>
        obtain ⟨spent, told⟩ := holds.joined joined
        rw [spent.verdict?] at given
        cases given
        simp only [if_true]
        refine ⟨holds.running, Bool.noConfusion, fun _ => ⟨spent, told⟩, ?_, holds.signalled,
          holds.counted⟩
        · intro verdict listed
          rcases List.mem_append.1 listed with before | last
          · exact holds.silent verdict before
          · exact List.mem_singleton.1 last
      | false =>
        obtain ⟨told, running, isTold⟩ := (holds.told joined).verdict holds.running given
        simp only [Bool.false_eq_true, if_false]
        refine ⟨running.trans holds.running, fun _ => told, Bool.noConfusion, holds.silent, ?_, ?_⟩
        · exact fun used => isTold.trans (holds.signalled used)
        · change s.signals = if handle.isTold then 1 else 0
          rw [isTold]
          exact holds.counted
  · exact holds

private theorem Holds.join (holds : s.Holds) : (s.step .join).Holds := by
  simp only [step]
  split
  · rename_i calling
    cases found : s.handle.join? with
    | none => exact holds
    | some handle =>
      have isTold : s.handle.isTold = true :=
        holds.signalled (by rw [calling]; exact Holder.noConfusion)
      unfold join? at found
      split at found
      · cases found
      · rename_i stopped
        cases found
        refine ⟨holds.running, Bool.noConfusion, fun _ => ?_, holds.silent, fun used => (used rfl).elim,
          holds.counted⟩
        refine ⟨⟨isTold, by simpa using stopped, rfl⟩, ?_⟩
        cases joined : s.isJoined with
        | true => exact (holds.joined joined).2
        | false => exact ⟨_, holds.told joined⟩
  · exact holds

private theorem Holds.step (holds : s.Holds) (act : Act) : (s.step act).Holds := by
  cases act with
  | exit result => exact holds.exit result
  | ask => exact holds.ask
  | unsubscribe =>
    simp only [Scene.step]
    split
    · exact holds.signal .unsubscribing
    · exact holds
  | join => exact holds.join
  | drop =>
    simp only [Scene.step]
    split
    · exact holds
    · exact holds.signal .gone

private theorem Holds.run (holds : s.Holds) (acts : List Act) : (s.run acts).Holds := by
  induction acts generalizing s with
  | nil => exact holds
  | cons act acts ih => exact ih (holds.step act)

private theorem handle_step_of_joined (holds : s.Holds) (joined : s.isJoined = true) (act : Act) :
    (s.step act).handle = s.handle ∧ (s.step act).isJoined = true := by
  have spent := (holds.joined joined).1
  cases act with
  | exit result => exact ⟨spent.exit result, joined⟩
  | ask =>
    simp only [Scene.step, spent.verdict?, noted, joined, if_true]
    split
    · exact ⟨rfl, rfl⟩
    · exact ⟨rfl, joined⟩
  | unsubscribe =>
    simp only [Scene.step]
    split
    · exact ⟨spent.tell, joined⟩
    · exact ⟨rfl, joined⟩
  | join =>
    simp only [Scene.step, spent.join?]
    split
    · exact ⟨rfl, rfl⟩
    · exact ⟨rfl, joined⟩
  | drop =>
    simp only [Scene.step]
    split
    · exact ⟨rfl, joined⟩
    · exact ⟨spent.tell, joined⟩

private theorem handle_run_of_joined (holds : s.Holds) (joined : s.isJoined = true)
    (acts : List Act) :
    (s.run acts).handle = s.handle := by
  induction acts generalizing s with
  | nil => rfl
  | cons act acts ih =>
    obtain ⟨same, still⟩ := handle_step_of_joined holds joined act
    exact (ih (holds.step act) still).trans same

private theorem Holds.told_early (holds : s.Holds) :
    s.early = [] ∨ ∃ result n, s.result = some result ∧
      s.early = Feed.failureOf result :: List.replicate n none := by
  have told : ∃ failure, Told s.early failure s.result := by
    cases joined : s.isJoined with
    | true => exact (holds.joined joined).2
    | false => exact ⟨_, holds.told joined⟩
  obtain ⟨failure, told⟩ := told
  cases ended : s.result with
  | none =>
    rw [ended] at told
    exact Or.inl told.1
  | some result =>
    rw [ended] at told
    rcases told with ⟨nothing, -⟩ | ⟨⟨n, all⟩, -⟩
    · exact Or.inl nothing
    · exact Or.inr ⟨result, n, rfl, all⟩

private theorem Holds.verdict_iff (holds : s.Holds) :
    s.handle.verdict?.isSome ↔ s.result.isSome := by
  have running := holds.running
  cases ended : s.result with
  | none =>
    rw [ended] at running
    have quiet : s.handle.failure = none := by
      cases joined : s.isJoined with
      | true => exact (holds.joined joined).1.2.2
      | false =>
        have told := holds.told joined
        rw [ended] at told
        exact told.2
    simp only [verdict?, quiet, running, Option.isNone_none, if_true, Option.isSome_none]
  | some result =>
    rw [ended] at running
    unfold verdict?
    split
    · simp only [Option.isSome_some]
    · simp only [running, Option.isNone_some, Bool.false_eq_true, if_false, Option.isSome_some]

private theorem Holds.join_iff (holds : s.Holds) : s.handle.join?.isSome ↔ s.result.isSome := by
  simp only [join?, holds.running]
  cases s.result <;> simp

/-- Whatever the producer does and in whatever order its handle is used: a verdict is given once the
producer has ended, and until a call to unsubscribe has returned the first verdict is the result and
all others are empty, so that a failure is told at most once. When the call has returned, which takes
as long as the producer runs, the producer has ended, verdicts are empty, and nothing changes the
handle any more. The producer is told to quit at most once, and has been as soon as the handle is
unsubscribed or dropped. -/
theorem handle_course (acts : List Act) :
    let s := start.run acts
    ((s.early ++ s.late).countP Option.isSome ≤ 1 ∧
      (s.handle.verdict?.isSome ↔ s.result.isSome)) ∧
    (s.early = [] ∨ ∃ result n, s.result = some result ∧
      s.early = Feed.failureOf result :: List.replicate n none) ∧
    ((∀ verdict ∈ s.late, verdict = none) ∧ (s.handle.join?.isSome ↔ s.result.isSome)) ∧
    (s.isJoined = true →
      s.result.isSome ∧ s.handle.verdict? = some (none, s.handle) ∧
      s.handle.join? = some s.handle ∧ ∀ more, (s.run more).handle = s.handle) ∧
    (s.signals ≤ 1 ∧ (s.signals = 1 ↔ s.handle.isTold = true) ∧
      (s.holder ≠ .free ∨ s.isJoined = true → s.signals = 1)) := by
  intro s
  have holds : s.Holds := holds_start.run acts
  have signalled : s.signals = 1 ↔ s.handle.isTold = true := by
    rw [holds.counted]
    cases s.handle.isTold <;> simp
  refine ⟨⟨?_, holds.verdict_iff⟩, holds.told_early, ⟨holds.silent, holds.join_iff⟩, ?_, ?_,
    signalled, ?_⟩
  · have late : s.late.countP Option.isSome = 0 := by
      rw [List.countP_eq_zero]
      intro verdict listed
      rw [holds.silent verdict listed]
      exact Bool.false_ne_true
    rw [List.countP_append, late, Nat.add_zero]
    rcases holds.told_early with nothing | ⟨result, n, -, all⟩
    · rw [nothing]
      exact Nat.zero_le 1
    · rw [all, List.countP_cons, List.countP_replicate]
      cases Feed.failureOf result <;> simp
  · intro joined
    have spent := (holds.joined joined).1
    refine ⟨?_, spent.verdict?, spent.join?, handle_run_of_joined holds joined⟩
    rw [← holds.verdict_iff, spent.verdict?]
    rfl
  · rw [holds.counted]
    split
    · exact Nat.le_refl 1
    · exact Nat.zero_le 1
  · rintro (used | joined)
    · exact signalled.2 (holds.signalled used)
    · exact signalled.2 (holds.joined joined).1.1

end Scene

end NameRights.Subscription
