/- NameRights/Proofs/Feed/Ledger
   digest: What has happened on a feed, told apart from what is left of it in its queue. -/

import NameRights.Feed.Basic

set_option autoImplicit false
set_option relaxedAutoImplicit false

namespace NameRights

theorem Subscription.eq_of_verdict_none {s t : Subscription} (verdict : s.verdict? = some (none, t)) :
    t = s := by
  unfold Subscription.verdict? at verdict
  split at verdict
  · cases verdict
  · split at verdict
    · cases verdict
    · cases verdict
      rfl

@[simp] theorem Subscription.isTold_exit (s : Subscription) (result : Except ContractError Unit) :
    (s.exit result).isTold = s.isTold := by
  unfold Subscription.exit
  split <;> rfl

theorem Subscription.isRunning_exit (s : Subscription) (result : Except ContractError Unit) :
    (s.exit result).isRunning = false := by
  unfold Subscription.exit
  split
  · rfl
  · exact Bool.eq_false_iff.2 ‹_›

/-- An act on a feed from outside its reader: a log is offered, the sending end is let go of, or the
producer ends with a result. -/
inductive Feed.Act where
  | offer (log : Log)
  | letGo
  | exit (result : Except ContractError Unit)

/-- The history of a feed: the logs it accepted, those that its reader took, and, once the producer
has ended, the number of logs accepted by then and the result. -/
structure Feed.Ledger where
  accepted : List Log
  taken : List Log
  ended : Option (Nat × Except ContractError Unit)

namespace Feed

def failureOf : Except ContractError Unit → Option ContractError
  | .ok () => none
  | .error e => some e

def enact (feed : Feed) : Act → Feed
  | .offer log => { feed with logs := (feed.logs.offer log).2 }
  | .letGo => { feed with logs := feed.logs.closeSender }
  | .exit result => { feed with subscription := feed.subscription.exit result }

theorem hasReceiver_enact (feed : Feed) (act : Act) :
    (feed.enact act).logs.hasReceiver = feed.logs.hasReceiver := by
  cases act with
  | offer log =>
    simp only [enact, Channel.offer]
    split
    · rfl
    · split <;> rfl
  | letGo => rfl
  | exit result => rfl

theorem exists_enact_of_perform (move : Move) (feed : Feed) :
    ∃ acts : List Act, (feed.perform move).2 = acts.foldl enact feed := by
  cases move with
  | send log => exact ⟨[.offer log], rfl⟩
  | closeLogs => exact ⟨[.letGo], rfl⟩
  | finish => exact ⟨[.letGo, .exit (.ok ())], rfl⟩
  | fail e => exact ⟨[.exit (.error e)], rfl⟩

theorem exists_enact_of_step {p q : Producer} {feed after : Feed}
    (held : feed.logs.hasSender = true) (stepped : p.step? feed = some (q, after)) :
    ∃ acts : List Act, after = acts.foldl enact feed := by
  unfold Producer.step? at stepped
  split at stepped
  · cases stepped
  · cases p with
    | idle =>
      simp only at stepped
      split at stepped
      · cases stepped
        exact ⟨[.exit (.ok ())], rfl⟩
      · cases stepped
    | replay rest =>
      simp only at stepped
      split at stepped
      · cases stepped
        exact ⟨[.letGo, .exit (.ok ())], rfl⟩
      · rename_i attended
        cases rest with
        | nil =>
          cases stepped
          exact ⟨[.letGo, .exit (.ok ())], rfl⟩
        | cons log rest =>
          simp only at stepped
          split at stepped
          · rename_i room
            cases stepped
            have receiver : feed.logs.hasReceiver = true := by
              simp only [Bool.or_eq_true, not_or, Bool.not_eq_true'] at attended
              simpa using attended.2
            refine ⟨[.offer log], ?_⟩
            simp [enact, Channel.offer, held, receiver, room]
          · cases stepped

namespace Ledger

def blank : Ledger := ⟨[], [], none⟩

/-- Adds an act on a feed that is still in the state before it. -/
def note (l : Ledger) (feed : Feed) : Act → Ledger
  | .offer log =>
    if (feed.logs.offer log).1 = .accepted then { l with accepted := l.accepted ++ [log] } else l
  | .letGo => l
  | .exit result =>
    if feed.subscription.isRunning then { l with ended := some (l.accepted.length, result) } else l

/-- Adds what a reader that still holds the receiving end has taken off the queue. -/
def watch (l : Ledger) (before after : Channel Log) : Ledger :=
  if after.hasReceiver then
    { l with taken := l.taken ++ before.items.take (before.items.length - after.items.length) }
  else l

/-- A history that a feed can have. While the receiving end is held, the queue holds what is
accepted and not taken. The producer runs until it has ended, and a failure that waits to be
collected is the one it ended with. -/
structure Fits (l : Ledger) (feed : Feed) : Prop where
  queued : feed.logs.hasReceiver = true → l.accepted = l.taken ++ feed.logs.items
  inOrder : l.taken <+: l.accepted
  running : feed.subscription.isRunning = l.ended.isNone
  reported : ∀ e, feed.subscription.failure = some e → ∃ k, l.ended = some (k, .error e)
  earlier : ∀ k result, l.ended = some (k, result) → k ≤ l.accepted.length

/-- Nobody has collected the producer's failure. -/
def Unread (l : Ledger) (feed : Feed) : Prop :=
  ∀ k e, l.ended = some (k, .error e) → feed.subscription.failure = some e

variable {l : Ledger} {feed : Feed}

theorem fits_blank (capacity : Nat) : blank.Fits (started capacity) :=
  ⟨fun _ => rfl, List.nil_prefix, rfl, fun _ failed => (nomatch failed),
    fun _ _ ended => (nomatch ended)⟩

theorem unread_blank (feed : Feed) : blank.Unread feed := fun _ _ ended => (nomatch ended)

theorem offer_cases (logs : Channel Log) (log : Log) :
    (logs.offer log = (.accepted, logs.push log)) ∨
      ((logs.offer log).1 ≠ .accepted ∧ (logs.offer log).2 = logs) := by
  unfold Channel.offer
  split
  · exact Or.inr ⟨Offer.noConfusion, rfl⟩
  · split
    · exact Or.inl rfl
    · exact Or.inr ⟨Offer.noConfusion, rfl⟩

theorem Fits.note (fits : l.Fits feed) (act : Act) : (l.note feed act).Fits (feed.enact act) := by
  cases act with
  | offer log =>
    simp only [Ledger.note, enact]
    rcases offer_cases feed.logs log with accepted | ⟨refused, same⟩
    · rw [accepted, if_pos rfl]
      refine ⟨?_, ?_, fits.running, fits.reported, ?_⟩
      · intro held
        simp only [Channel.push, fits.queued held, List.append_assoc]
      · exact fits.inOrder.trans (List.prefix_append _ _)
      · intro k result ended
        have earlier := fits.earlier k result ended
        simp only [List.length_append]
        omega
    · rw [if_neg refused, same]
      exact fits
  | letGo => exact ⟨fits.queued, fits.inOrder, fits.running, fits.reported, fits.earlier⟩
  | exit result =>
    simp only [Ledger.note, enact, Subscription.exit]
    split
    · refine ⟨fits.queued, fits.inOrder, rfl, ?_, ?_⟩
      · intro e failed
        cases result with
        | ok u => cases failed
        | error e' =>
          cases failed
          exact ⟨l.accepted.length, rfl⟩
      · intro k result ended
        cases ended
        exact Nat.le_refl _
    · exact fits

theorem Unread.note (unread : l.Unread feed) (act : Act) :
    (l.note feed act).Unread (feed.enact act) := by
  cases act with
  | offer log =>
    intro k e ended
    simp only [Ledger.note] at ended
    split at ended <;> exact unread k e ended
  | letGo => exact unread
  | exit result =>
    simp only [Unread, Ledger.note, enact, Subscription.exit]
    split
    · intro k e ended
      cases ended
      rfl
    · exact unread

@[simp] theorem taken_note (act : Act) : (l.note feed act).taken = l.taken := by
  cases act with
  | offer log =>
    simp only [Ledger.note]
    split <;> rfl
  | letGo => rfl
  | exit result =>
    simp only [Ledger.note]
    split <;> rfl

theorem accepted_note (act : Act) : l.accepted <+: (l.note feed act).accepted := by
  cases act with
  | offer log =>
    simp only [Ledger.note]
    split
    · exact List.prefix_append _ _
    · exact List.prefix_rfl
  | letGo => exact List.prefix_rfl
  | exit result =>
    simp only [Ledger.note]
    split <;> exact List.prefix_rfl

/-- A feed whose sending end is let go of stays so, and accepts nothing more. -/
theorem note_of_closed (closed : feed.logs.hasSender = false) (act : Act) :
    (feed.enact act).logs.hasSender = false ∧ (l.note feed act).accepted = l.accepted := by
  cases act with
  | offer log =>
    have refused : feed.logs.offer log = (.closed, feed.logs) := by
      simp only [Channel.offer, closed, Bool.not_false, Bool.true_or, if_true]
    simp only [enact, Ledger.note, refused, closed, reduceCtorEq, if_false, true_and]
  | letGo => exact ⟨rfl, rfl⟩
  | exit result =>
    refine ⟨closed, ?_⟩
    simp only [Ledger.note]
    split <;> rfl

theorem Fits.ended_note (fits : l.Fits feed) {k : Nat} {result : Except ContractError Unit}
    (ended : l.ended = some (k, result)) (act : Act) :
    (l.note feed act).ended = some (k, result) := by
  cases act with
  | offer log =>
    simp only [Ledger.note]
    split <;> exact ended
  | letGo => exact ended
  | exit later =>
    have stopped := fits.running
    rw [ended] at stopped
    simp only [Ledger.note, stopped, Option.isNone_some, Bool.false_eq_true, if_false]
    exact ended

/-- The first verdict on a producer is the result it ended with. -/
theorem Fits.verdict (fits : l.Fits feed) (unread : l.Unread feed)
    {failure : Option ContractError} {s : Subscription}
    (verdict : feed.subscription.verdict? = some (failure, s)) :
    ∃ k result, l.ended = some (k, result) ∧ failure = failureOf result := by
  unfold Subscription.verdict? at verdict
  split at verdict
  · rename_i e failed
    cases verdict
    obtain ⟨k, ended⟩ := fits.reported e failed
    exact ⟨k, .error e, ended, rfl⟩
  · rename_i silent
    split at verdict
    · cases verdict
    · rename_i stopped
      cases verdict
      have ended := fits.running
      cases past : l.ended with
      | none =>
        rw [past] at ended
        exact absurd ended stopped
      | some entry =>
        obtain ⟨k, result⟩ := entry
        cases result with
        | ok u => exact ⟨k, .ok u, rfl, rfl⟩
        | error e =>
          rw [unread k e past] at silent
          cases silent

theorem Fits.collected (fits : l.Fits feed) {failure : Option ContractError} {s : Subscription}
    (verdict : feed.subscription.verdict? = some (failure, s)) :
    l.Fits { feed with subscription := s } := by
  unfold Subscription.verdict? at verdict
  split at verdict
  · cases verdict
    exact ⟨fits.queued, fits.inOrder, fits.running, fun _ failed => (nomatch failed), fits.earlier⟩
  · split at verdict
    · cases verdict
    · cases verdict
      exact fits

theorem Fits.tell (fits : l.Fits feed) :
    l.Fits { feed with subscription := feed.subscription.tell } :=
  ⟨fits.queued, fits.inOrder, fits.running, fits.reported, fits.earlier⟩

theorem Fits.dropped (fits : l.Fits feed) {s : Subscription}
    (joined : feed.subscription.join? = some s) : l.Fits ⟨feed.logs.dropReceiver, s⟩ := by
  unfold Subscription.join? at joined
  split at joined
  · cases joined
  · cases joined
    exact ⟨fun held => (nomatch held), fits.inOrder, fits.running, fun _ failed => (nomatch failed),
      fits.earlier⟩

@[simp] theorem accepted_watch (before after : Channel Log) :
    (l.watch before after).accepted = l.accepted := by
  unfold watch
  split <;> rfl

@[simp] theorem ended_watch (before after : Channel Log) :
    (l.watch before after).ended = l.ended := by
  unfold watch
  split <;> rfl

@[simp] theorem watch_self (logs : Channel Log) : l.watch logs logs = l := by
  unfold watch
  split
  · simp
  · rfl

theorem Unread.watch (unread : l.Unread feed) (before after : Channel Log) :
    (l.watch before after).Unread { feed with logs := after } := by
  intro k e ended
  rw [ended_watch] at ended
  exact unread k e ended

theorem Fits.pop (fits : l.Fits feed) (held : feed.logs.hasReceiver = true) {log : Log}
    {logs : Channel Log} (popped : feed.logs.pop? = some (log, logs)) :
    (l.watch feed.logs logs).Fits { feed with logs } ∧
      (l.watch feed.logs logs).taken = l.taken ++ [log] ∧
      l.accepted[l.taken.length]? = some log ∧
      logs = { feed.logs with items := logs.items } := by
  have queued := fits.queued held
  unfold Channel.pop? at popped
  split at popped
  · cases popped
  · rename_i first rest items
    cases popped
    have taken : (l.watch feed.logs { feed.logs with items := rest }).taken = l.taken ++ [log] := by
      simp only [watch, held, if_true, items, List.length_cons]
      rw [Nat.add_sub_cancel_left]
      rfl
    rw [items] at queued
    refine ⟨⟨?_, ?_, ?_, ?_, ?_⟩, taken, ?_, rfl⟩
    · intro _
      rw [accepted_watch, taken, queued]
      simp
    · rw [accepted_watch, taken, queued]
      exact ⟨rest, by simp⟩
    · rw [ended_watch]
      exact fits.running
    · rw [ended_watch]
      exact fits.reported
    · rw [ended_watch, accepted_watch]
      exact fits.earlier
    · rw [queued]
      simp

end Ledger

end Feed

end NameRights
