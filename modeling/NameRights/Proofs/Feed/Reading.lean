/- NameRights/Proofs/Feed/Reading
   digest: What a reader does to a feed, and the consumer's turns at a tap as cases of it. -/

import NameRights.Feed.Tap
import NameRights.Proofs.Feed.Ledger

set_option autoImplicit false
set_option relaxedAutoImplicit false

namespace NameRights

/-- A feed after its reader had it: logs may be taken off the front of the queue, the producer told
to quit, its failure collected, and the receiving end let go of. -/
structure Feed.Reads (before after : Feed) : Prop where
  sender : after.logs.hasSender = before.logs.hasSender
  running : after.subscription.isRunning = before.subscription.isRunning
  told : before.subscription.isTold = true → after.subscription.isTold = true
  failure : after.subscription.failure = before.subscription.failure ∨
    after.subscription.failure = none
  queue : after.logs.hasReceiver = true →
    before.logs.hasReceiver = true ∧ ∃ taken, before.logs.items = taken ++ after.logs.items

namespace Feed

variable {feed before between after : Feed}

theorem Reads.refl (feed : Feed) : feed.Reads feed :=
  ⟨rfl, rfl, id, Or.inl rfl, fun held => ⟨held, [], rfl⟩⟩

private theorem Reads.trans (first : before.Reads between) (second : between.Reads after) :
    before.Reads after := by
  refine ⟨second.sender.trans first.sender, second.running.trans first.running, ?_, ?_, ?_⟩
  · exact fun told => second.told (first.told told)
  · rcases second.failure with same | none
    · rcases first.failure with same' | none
      · exact Or.inl (same.trans same')
      · exact Or.inr (same.trans none)
    · exact Or.inr none
  · intro held
    obtain ⟨attached, late, items⟩ := second.queue held
    obtain ⟨attached', early, items'⟩ := first.queue attached
    refine ⟨attached', early ++ late, ?_⟩
    rw [items', items, List.append_assoc]

private theorem reads_handle {handle : Subscription}
    (running : handle.isRunning = feed.subscription.isRunning)
    (told : feed.subscription.isTold = true → handle.isTold = true)
    (failure : handle.failure = feed.subscription.failure ∨ handle.failure = none) :
    feed.Reads { feed with subscription := handle } :=
  ⟨rfl, running, told, failure, fun held => ⟨held, [], rfl⟩⟩

theorem reads_tell (feed : Feed) : feed.Reads { feed with subscription := feed.subscription.tell } :=
  reads_handle rfl (fun _ => rfl) (Or.inl rfl)

theorem reads_verdict {verdict : Option ContractError} {handle : Subscription}
    (given : feed.subscription.verdict? = some (verdict, handle)) :
    feed.Reads { feed with subscription := handle } := by
  unfold Subscription.verdict? at given
  split at given
  · cases given
    exact reads_handle rfl id (Or.inr rfl)
  · split at given
    · cases given
    · cases given
      exact reads_handle rfl id (Or.inl rfl)

theorem reads_join {handle : Subscription} (joined : feed.subscription.join? = some handle) :
    feed.Reads { feed with subscription := handle } := by
  unfold Subscription.join? at joined
  split at joined
  · cases joined
  · cases joined
    exact reads_handle rfl id (Or.inr rfl)

theorem reads_pop {log : Log} {logs : Channel Log} (popped : feed.logs.pop? = some (log, logs)) :
    feed.Reads { feed with logs } := by
  unfold Channel.pop? at popped
  split at popped
  · cases popped
  · rename_i first rest items
    cases popped
    exact ⟨rfl, rfl, id, Or.inl rfl, fun held => ⟨held, [log], items⟩⟩

private theorem reads_dropReceiver (feed : Feed) :
    feed.Reads { feed with logs := feed.logs.dropReceiver } :=
  ⟨rfl, rfl, id, Or.inl rfl, fun held => nomatch held⟩

/-- A reader takes the logs in the order in which they were accepted. -/
theorem Ledger.Fits.reads {l : Ledger} (fits : l.Fits before) (reads : before.Reads after) :
    (l.watch before.logs after.logs).Fits after := by
  have running : after.subscription.isRunning = l.ended.isNone := reads.running.trans fits.running
  have reported : ∀ e, after.subscription.failure = some e → ∃ k, l.ended = some (k, .error e) := by
    intro e failed
    rcases reads.failure with same | none
    · exact fits.reported e (same.symm.trans failed)
    · cases none.symm.trans failed
  cases held : after.logs.hasReceiver with
  | false =>
    simp only [Ledger.watch, held, Bool.false_eq_true, if_false]
    refine ⟨fun attached => ?_, fits.inOrder, running, reported, fits.earlier⟩
    cases held.symm.trans attached
  | true =>
    obtain ⟨attached, taken, items⟩ := reads.queue held
    have queued := fits.queued attached
    have front : before.logs.items.take (before.logs.items.length - after.logs.items.length) =
        taken := by
      rw [items, List.length_append, Nat.add_sub_cancel, List.take_left]
    simp only [Ledger.watch, held, if_true, front]
    refine ⟨fun _ => ?_, ⟨after.logs.items, ?_⟩, running, reported, fits.earlier⟩
    · rw [queued, items, List.append_assoc]
    · rw [queued, items, List.append_assoc]

end Feed

namespace Forwarder

variable {kind : EventKind} {f g : Forwarder kind} {result : Except ContractError Unit}

/-- What a step of forwarding comes to for those around the forwarder: it reads its feed, keeps the
handle as it is, and goes on or decides a result. -/
structure Carries (f g : Forwarder kind) : Prop where
  reads : f.feed.Reads g.feed
  handle : g.handle = f.handle
  stage : g.stage = f.stage ∨ ∃ result, g.stage = .stopping result

private theorem carries_of_reads (reads : f.feed.Reads g.feed) (handle : g.handle = f.handle)
    (stage : g.stage = f.stage) : f.Carries g :=
  ⟨reads, handle, Or.inl stage⟩

private theorem Carries.decide (carries : f.Carries g) (result : Except ContractError Unit) :
    f.Carries (g.decide result) :=
  ⟨carries.reads.trans (Feed.reads_tell _), carries.handle, Or.inr ⟨result, rfl⟩⟩

private theorem carries_decide (f : Forwarder kind) (result : Except ContractError Unit) :
    f.Carries (f.decide result) :=
  (carries_of_reads (Feed.Reads.refl _) rfl rfl).decide result

private theorem carries_takeLog (made : f.takeLog? = some g) : f.Carries g := by
  unfold takeLog? at made
  cases popped : f.feed.logs.pop? with
  | some entry =>
    obtain ⟨log, logs⟩ := entry
    rw [popped] at made
    have taken : f.Carries { f with feed.logs := logs } :=
      carries_of_reads (Feed.reads_pop popped) rfl rfl
    cases decoded : kind.decode f.event log with
    | ok record =>
      simp only [decoded] at made
      cases made
      exact carries_of_reads taken.reads rfl rfl
    | error e =>
      simp only [decoded] at made
      cases made
      exact taken.decide _
  | none =>
    rw [popped] at made
    simp only at made
    split at made
    · cases made
    · obtain ⟨⟨failure, handle⟩, verdict, made⟩ := Option.map_eq_some_iff.1 made
      have collected : f.Carries { f with feed.subscription := handle } :=
        carries_of_reads (Feed.reads_verdict verdict) rfl rfl
      cases made
      exact collected.decide _

private theorem carries_push {record : kind.Record} (made : f.push? record = some g) :
    f.Carries g := by
  unfold push? at made
  split at made
  · cases made
    exact carries_decide f _
  · split at made
    · cases made
      exact carries_of_reads (Feed.Reads.refl _) rfl rfl
    · cases made

private theorem carries_heedVerdict (made : f.heedVerdict? = some g) : f.Carries g := by
  unfold heedVerdict? at made
  by_cases fed : f.isFed = true
  · rw [if_pos fed] at made
    cases verdict : f.feed.subscription.verdict? with
    | none =>
      rw [verdict] at made
      cases made
    | some entry =>
      obtain ⟨failure, handle⟩ := entry
      rw [verdict] at made
      have collected : f.Carries { f with feed.subscription := handle } :=
        carries_of_reads (Feed.reads_verdict verdict) rfl rfl
      cases failure with
      | none =>
        cases made
        exact carries_of_reads collected.reads rfl rfl
      | some e =>
        cases made
        exact collected.decide _
  · rw [if_neg fed] at made
    cases made

private theorem carries_forward (made : f.forward? = some g) : f.Carries g := by
  unfold forward? at made
  rcases Option.or_eq_some_iff.1 made with quit | ⟨-, made⟩
  · unfold heedQuit? at quit
    split at quit
    · cases quit
      exact carries_decide f _
    · cases quit
  · rcases Option.or_eq_some_iff.1 made with verdict | ⟨-, carried⟩
    · exact carries_heedVerdict verdict
    · unfold carryOn? at carried
      split at carried
      · exact carries_push carried
      · exact carries_takeLog carried

private theorem reads_step (made : f.step? = some g) : f.feed.Reads g.feed := by
  unfold step? at made
  split at made
  · exact (carries_forward made).reads
  · obtain ⟨handle, joined, made⟩ := Option.map_eq_some_iff.1 made
    cases made
    exact (Feed.reads_join joined).trans (Feed.reads_dropReceiver _)
  · cases made
    exact Feed.Reads.refl _
  · cases made

/-- A forwarder lets go of its feed, and ends, after the feed's producer. -/
private def Ordered (f : Forwarder kind) : Prop :=
  match f.stage with
  | .forwarding => f.handle.isRunning = true
  | .stopping _ => f.handle.isRunning = true
  | .leaving _ => f.handle.isRunning = true ∧ f.feed.subscription.isRunning = false
  | .gone => f.feed.subscription.isRunning = false

private theorem Ordered.step (ordered : f.Ordered) (made : f.step? = some g) : g.Ordered := by
  unfold step? at made
  unfold Ordered at ordered
  cases stage : f.stage with
  | forwarding =>
    rw [stage] at made ordered
    have carries := carries_forward made
    have running : g.handle.isRunning = true := by
      rw [carries.handle]
      exact ordered
    unfold Ordered
    rcases carries.stage with same | ⟨result, decided⟩
    · rw [same, stage]
      exact running
    · rw [decided]
      exact running
  | stopping result =>
    rw [stage] at made ordered
    obtain ⟨handle, joined, made⟩ := Option.map_eq_some_iff.1 made
    unfold Subscription.join? at joined
    split at joined
    · cases joined
    · rename_i stopped
      cases joined
      cases made
      exact ⟨ordered, by simpa using stopped⟩
  | leaving result =>
    rw [stage] at made ordered
    cases made
    exact ordered.2
  | gone =>
    rw [stage] at made
    cases made

private theorem Ordered.producer (ordered : f.Ordered) (ended : f.handle.isRunning = false) :
    f.feed.subscription.isRunning = false := by
  unfold Ordered at ordered
  split at ordered
  · cases ended.symm.trans ordered
  · cases ended.symm.trans ordered
  · exact ordered.2
  · exact ordered

private theorem Ordered.others (ordered : f.Ordered) {feed : Feed} {handle : Subscription}
    (fed : f.feed.subscription.isRunning = false → feed.subscription.isRunning = false)
    (running : handle.isRunning = f.handle.isRunning) :
    ({ f with feed, handle } : Forwarder kind).Ordered := by
  unfold Ordered at ordered ⊢
  cases stage : f.stage with
  | forwarding =>
    rw [stage] at ordered
    exact running.trans ordered
  | stopping result =>
    rw [stage] at ordered
    exact running.trans ordered
  | leaving result =>
    rw [stage] at ordered
    exact ⟨running.trans ordered.1, fed ordered.2⟩
  | gone =>
    rw [stage] at ordered
    exact fed ordered

end Forwarder

namespace Tap

variable {kind : EventKind}

/-- A turn at a tap: a move of the consumer as far as it gets at once, or a step of the forwarder. -/
inductive Turn where
  | receive
  | verdict
  | tell
  | join
  | dropReceiver
  | forward

def turn? (tap : Tap kind) : Turn → Option (Tap kind)
  | .receive => tap.receive?.map Prod.snd
  | .verdict => tap.verdict?.map Prod.snd
  | .tell => some tap.tell
  | .join => tap.join?
  | .dropReceiver => some tap.dropReceiver
  | .forward => tap.step?

/-- A tap with nothing received: the feed itself, or a forwarder that has just been started. -/
def start (feed : Feed) : Option (Abi.Event × Nat) → Tap kind
  | none => .raw feed
  | some (event, capacity) => .decoded (.start event feed capacity)

/-- The consumer learns of the end after the end of the producer. -/
def Ordered : Tap kind → Prop
  | .raw _ => True
  | .decoded f => f.Ordered

variable {tap after : Tap kind}

theorem feed_start (feed : Feed) (sink : Option (Abi.Event × Nat)) :
    (start feed sink : Tap kind).feed = feed := by
  cases sink <;> rfl

theorem ordered_start (feed : Feed) (sink : Option (Abi.Event × Nat)) :
    (start feed sink : Tap kind).Ordered := by
  cases sink with
  | none => trivial
  | some forwarding => exact (rfl : Subscription.started.isRunning = true)

@[simp] theorem feed_withFeed (tap : Tap kind) (feed : Feed) : (tap.withFeed feed).feed = feed := by
  cases tap <;> rfl

@[simp] theorem withFeed_feed (tap : Tap kind) : tap.withFeed tap.feed = tap := by
  cases tap <;> rfl

theorem Ordered.withFeed (ordered : tap.Ordered) {feed : Feed}
    (stays : tap.feed.subscription.isRunning = false → feed.subscription.isRunning = false) :
    (tap.withFeed feed).Ordered := by
  cases tap with
  | raw _ => trivial
  | decoded f => exact Forwarder.Ordered.others ordered stays rfl

theorem Ordered.producer (ordered : tap.Ordered) (ended : tap.handle.isRunning = false) :
    tap.feed.subscription.isRunning = false := by
  cases tap with
  | raw feed => exact ended
  | decoded f => exact Forwarder.Ordered.producer ordered ended

private theorem turn_withHandle (ordered : tap.Ordered) {handle : Subscription}
    (reads : Feed.Reads ⟨tap.feed.logs, tap.handle⟩ ⟨tap.feed.logs, handle⟩) :
    tap.feed.Reads (tap.withHandle handle).feed ∧ (tap.withHandle handle).Ordered := by
  cases tap with
  | raw feed => exact ⟨reads, trivial⟩
  | decoded f => exact ⟨Feed.Reads.refl _, Forwarder.Ordered.others ordered id reads.running⟩

private theorem turn_receive (ordered : tap.Ordered) {item : Option (Item kind)}
    (received : tap.receive? = some (item, after)) : tap.feed.Reads after.feed ∧ after.Ordered := by
  unfold receive? at received
  cases tap with
  | raw feed =>
    simp only at received
    split at received
    · rename_i popped
      cases received
      exact ⟨Feed.reads_pop popped, trivial⟩
    · split at received
      · cases received
      · cases received
        exact ⟨Feed.Reads.refl _, trivial⟩
  | decoded f =>
    simp only at received
    split at received
    · cases received
      exact ⟨Feed.Reads.refl _, ordered⟩
    · split at received
      · cases received
      · cases received
        exact ⟨Feed.Reads.refl _, ordered⟩

/-- A turn at a tap only reads its feed, and keeps the order in which all come to an end. -/
theorem Ordered.turn (ordered : tap.Ordered) {turn : Turn} (made : tap.turn? turn = some after) :
    tap.feed.Reads after.feed ∧ after.Ordered := by
  cases turn with
  | receive =>
    obtain ⟨⟨item, _⟩, received, rfl⟩ := Option.map_eq_some_iff.1 made
    exact turn_receive ordered received
  | verdict =>
    obtain ⟨_, collected, rfl⟩ := Option.map_eq_some_iff.1 made
    obtain ⟨⟨verdict, handle⟩, given, rfl⟩ := Option.map_eq_some_iff.1 collected
    exact turn_withHandle ordered (Feed.reads_verdict given)
  | tell =>
    cases made
    exact turn_withHandle ordered (Feed.reads_tell _)
  | join =>
    obtain ⟨handle, joined, rfl⟩ := Option.map_eq_some_iff.1 made
    exact turn_withHandle ordered (Feed.reads_join joined)
  | dropReceiver =>
    cases made
    cases tap with
    | raw feed => exact ⟨Feed.reads_dropReceiver feed, trivial⟩
    | decoded f => exact ⟨Feed.Reads.refl _, ordered⟩
  | forward =>
    cases tap with
    | raw feed => cases made
    | decoded f =>
      obtain ⟨g, stepped, rfl⟩ := Option.map_eq_some_iff.1 made
      exact ⟨Forwarder.reads_step stepped, Forwarder.Ordered.step ordered stepped⟩

end Tap

end NameRights
