/- NameRights/Proofs/Node/Supplying
   digest: A poller does nothing to a feed that outsiders cannot do; a line without its consumer is a
   course of such acts and of parts of the forwarder's steps. -/

import Mathlib.Logic.Relation
import NameRights.Proofs.Feed.Delivery
import NameRights.Proofs.Node.TimelineCourse

set_option autoImplicit false
set_option relaxedAutoImplicit false

namespace NameRights

/-- A feed after an act from outside, or without one. -/
private def Feed.Turns (feed after : Feed) : Prop :=
  after = feed ∨ ∃ act : Act, after = feed.enact act

namespace Poller

def isSending (p : Poller) : Bool :=
  match p.phase with
  | .resting | .asking | .delivering _ => true
  | .leaving _ | .forgetting _ | .gone => false

variable {p q : Poller} {feed after : Feed} {request : Option Request}

/-- All that a poller can do before it needs time or an answer. -/
inductive Steps (p : Poller) (feed : Feed) : Option Request → Poller → Feed → Prop
  | quit (told : feed.subscription.isTold = true) (sending : p.isSending = true) :
      Steps p feed none (p.leave (.ok ()) feed).1 (p.leave (.ok ()) feed).2
  | rest (phase : p.phase = .delivering []) : Steps p feed none { p with phase := .resting } feed
  | unheard {log : Log} {rest : List Log} (phase : p.phase = .delivering (log :: rest))
      (gone : feed.logs.hasReceiver = false) :
      Steps p feed none (p.leave (.ok ()) feed).1 (p.leave (.ok ()) feed).2
  | deliver {log : Log} {rest : List Log} (phase : p.phase = .delivering (log :: rest))
      (heard : feed.logs.hasReceiver = true) (room : feed.logs.hasRoom = true) :
      Steps p feed none { p with phase := .delivering rest }
        { feed with logs := feed.logs.push log }
  | forget {result : Except ContractError Unit} (phase : p.phase = .leaving result) :
      Steps p feed (some (Node.uninstallRequest p.filter)) { p with phase := .forgetting result }
        feed

theorem steps_of_step (made : p.step? feed = some (request, q, after)) :
    Steps p feed request q after := by
  have quits (sending : p.isSending = true)
      (made : (if feed.subscription.isTold then some (none, p.leave (.ok ()) feed) else none) =
        some (request, q, after)) : Steps p feed request q after := by
    split at made
    · rename_i told
      cases made
      exact .quit told sending
    · cases made
  unfold step? at made
  cases phase : p.phase with
  | leaving result =>
    simp only [phase] at made
    cases made
    exact .forget phase
  | forgetting result =>
    simp only [phase] at made
    cases made
  | gone =>
    simp only [phase] at made
    cases made
  | resting =>
    simp only [phase] at made
    exact quits (by rw [isSending, phase]) made
  | asking =>
    simp only [phase] at made
    exact quits (by rw [isSending, phase]) made
  | delivering logs =>
    simp only [phase] at made
    split at made
    · rename_i told
      cases made
      exact .quit told (by rw [isSending, phase])
    · cases logs with
      | nil =>
        cases made
        exact .rest phase
      | cons log rest =>
        simp only at made
        split at made
        · rename_i gone
          cases made
          exact .unheard phase (by simpa using gone)
        · rename_i heard
          split at made
          · rename_i room
            cases made
            exact .deliver phase (by simpa using heard) room
          · cases made

/-- What a poller's phase says of its feed. -/
structure Serves (p : Poller) (feed : Feed) : Prop where
  sender : feed.logs.hasSender = p.isSending
  ended : p.phase = .gone → feed.subscription.isRunning = false

private theorem Serves.sending (serves : p.Serves feed) {logs : List Log}
    (phase : p.phase = .delivering logs) : feed.logs.hasSender = true :=
  serves.sender.trans (by rw [isSending, phase])

private theorem serves_leave (p : Poller) (result : Except ContractError Unit) (feed : Feed) :
    feed.Turns (p.leave result feed).2 ∧ (p.leave result feed).1.Serves (p.leave result feed).2 :=
  ⟨Or.inr ⟨.letGo, rfl⟩, rfl, fun gone => nomatch gone⟩

private theorem Serves.step (serves : p.Serves feed)
    (made : p.step? feed = some (request, q, after)) :
    feed.Turns after ∧ q.Serves after := by
  cases steps_of_step made with
  | quit told sending => exact serves_leave p (.ok ()) feed
  | rest phase => exact ⟨Or.inl rfl, serves.sending phase, fun gone => by cases gone⟩
  | unheard phase gone => exact serves_leave p (.ok ()) feed
  | @deliver log rest phase heard room =>
    have sender := serves.sending phase
    refine ⟨Or.inr ⟨.offer log, ?_⟩, sender, fun gone => by cases gone⟩
    simp [Feed.enact, Channel.offer, sender, heard, room]
  | forget phase =>
    refine ⟨Or.inl rfl, serves.sender.trans ?_, fun gone => by cases gone⟩
    rw [isSending, phase]
    rfl

private theorem Serves.hear (serves : p.Serves feed) (reply : Reply) :
    feed.Turns (p.hear reply feed).2 ∧ (p.hear reply feed).1.Serves (p.hear reply feed).2 := by
  unfold Poller.hear
  cases phase : p.phase with
  | asking =>
    have sender : feed.logs.hasSender = true := serves.sender.trans (by rw [isSending, phase])
    simp only
    cases Node.readPoll reply with
    | ok logs => exact ⟨Or.inl rfl, sender, fun gone => nomatch gone⟩
    | error e => exact serves_leave p (.error e) feed
  | forgetting result =>
    refine ⟨Or.inr ⟨.exit result, rfl⟩, serves.sender.trans ?_,
      fun _ => Subscription.isRunning_exit _ _⟩
    rw [isSending, phase]
    rfl
  | resting => exact ⟨Or.inl rfl, serves⟩
  | delivering logs => exact ⟨Or.inl rfl, serves⟩
  | leaving result => exact ⟨Or.inl rfl, serves⟩
  | gone => exact ⟨Or.inl rfl, serves⟩

theorem phase_of_wake {r : Request} (woken : p.wake? = some (r, q)) :
    p.phase = .resting ∧ q = { p with phase := .asking } := by
  unfold wake? at woken
  split at woken
  · rename_i phase
    cases woken
    exact ⟨phase, rfl⟩
  · cases woken

end Poller

namespace Forwarder

variable {kind : EventKind}

theorem exists_part_of_step {f g : Forwarder kind} (made : f.step? = some g) :
    ∃ part, f.part? part = some g := by
  rw [step?_eq_parts] at made
  rcases Option.or_eq_some_iff.1 made with quit | ⟨-, made⟩
  · exact ⟨.quit, quit⟩
  rcases Option.or_eq_some_iff.1 made with verdict | ⟨-, made⟩
  · exact ⟨.verdict, verdict⟩
  rcases Option.or_eq_some_iff.1 made with carry | ⟨-, leave⟩
  · exact ⟨.carry, carry⟩
  · exact ⟨.leave, leave⟩

namespace Scene

/-- What happens to a feed and its forwarder without the forwarder's owner. -/
inductive Stirs (s : Scene kind) : Scene kind → Prop
  | outside (act : Feed.Act) : Stirs s (s.step (.outside act))
  | part {p : Part} {f : Forwarder kind} (made : s.forwarder.part? p = some f) :
      Stirs s (s.moved f)

/-- The scene of a tap whose feed a poller serves. Feed and sink have room for something, and a
forwarder that stops has told the poller to quit. -/
structure Shows (s : Scene kind) (p : Poller) (tap : Tap kind) : Prop where
  same : tap = .decoded s.forwarder
  serves : p.Serves s.forwarder.feed
  feedRoom : 0 < s.forwarder.feed.logs.capacity
  sinkRoom : 0 < s.forwarder.sink.capacity
  telling : ∀ result, s.forwarder.stage = .stopping result →
    s.forwarder.feed.subscription.isTold = true

/-- What becomes of a scene as long as the forwarder's owner does nothing. -/
def Leads (s : Scene kind) (p : Poller) (tap : Tap kind) : Prop :=
  ∃ t, Relation.ReflTransGen Stirs s t ∧ t.Shows p tap

variable {s t : Scene kind} {p q : Poller} {tap : Tap kind}

theorem shows_start (filter : String) (event : Abi.Event) {feedCapacity sinkCapacity : Nat}
    (feedRoom : 0 < feedCapacity) (sinkRoom : 0 < sinkCapacity) :
    (start event feedCapacity sinkCapacity : Scene kind).Shows (.start filter)
      (.decoded (.start event (.started feedCapacity) sinkCapacity)) :=
  ⟨rfl, ⟨rfl, fun gone => nomatch gone⟩, feedRoom, sinkRoom, fun _ stopping => nomatch stopping⟩

private theorem Shows.leads_turns (shows : t.Shows p tap) (before : Relation.ReflTransGen Stirs s t)
    {feed : Feed} (turns : t.forwarder.feed.Turns feed) (serves : q.Serves feed) :
    s.Leads q (tap.withFeed feed) := by
  obtain ⟨rfl, -, feedRoom, sinkRoom, telling⟩ := shows
  rcases turns with rfl | ⟨act, rfl⟩
  · exact ⟨t, before, rfl, serves, feedRoom, sinkRoom, telling⟩
  · refine ⟨_, before.tail (.outside act), rfl, serves, ?_, sinkRoom, ?_⟩
    · exact (Feed.capacity_enact _ act).symm ▸ feedRoom
    · exact fun result stopping => (Feed.isTold_enact _ act).trans (telling result stopping)

/-- A poller and a forwarder at work do nothing to a scene but what can happen without the
forwarder's owner. -/
theorem isKept_leads (s : Scene kind) : Line.IsKept s.Leads where
  step := by
    rintro p q tap request feed ⟨t, before, shows⟩ made
    obtain rfl := shows.same
    obtain ⟨turns, serves⟩ := shows.serves.step made
    exact shows.leads_turns before turns serves
  forward := by
    rintro p tap tap' ⟨t, before, rfl, serves, feedRoom, sinkRoom, telling⟩ made
    obtain ⟨f, stepped, rfl⟩ := Option.map_eq_some_iff.1 made
    obtain ⟨part, moved⟩ := exists_part_of_step stepped
    have keeps := keeps_of_part moved
    refine ⟨_, before.tail (.part moved), rfl, ⟨?_, ?_⟩, ?_, ?_, keeps.telling⟩
    · exact keeps.sender.trans serves.sender
    · exact fun gone => keeps.running.trans (serves.ended gone)
    · exact keeps.feedRoom.symm ▸ feedRoom
    · exact keeps.sinkRoom.symm ▸ sinkRoom
  wake := by
    rintro p q tap request ⟨t, before, shows⟩ woken
    obtain ⟨phase, rfl⟩ := Poller.phase_of_wake woken
    refine ⟨t, before, { shows with serves := ⟨shows.serves.sender.trans ?_, ?_⟩ }⟩
    · rw [Poller.isSending, phase]
      rfl
    · exact fun gone => nomatch gone
  hear := by
    rintro p tap reply ⟨t, before, shows⟩
    obtain rfl := shows.same
    obtain ⟨turns, serves⟩ := shows.serves.hear reply
    exact shows.leads_turns before turns serves

end Scene

end Forwarder

end NameRights
