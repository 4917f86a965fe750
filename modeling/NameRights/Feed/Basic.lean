/- NameRights/Feed/Basic
   digest: Log feeds, the moves that outsiders make on them, and producers that need no node. -/

import NameRights.Feed.Channel
import NameRights.Feed.Subscription
import NameRights.Log

set_option autoImplicit false
set_option relaxedAutoImplicit false

namespace NameRights

/-- A log feed: queued logs and the handle on their producer. -/
structure Feed where
  logs : Channel Log
  subscription : Subscription
  deriving Repr

/-- A move that an outsider makes on a feed: it sends a log, lets go of the sending end, or ends the
producer without or with a failure. -/
inductive Feed.Move where
  | send (log : Log)
  | closeLogs
  | finish
  | fail (error : ContractError)
  deriving Repr

/-- What an outsider learns from a move: what became of the log, whether the sending end was still
held, or whether the producer was still running. -/
inductive Feed.Notice where
  | sent (offer : Offer)
  | closedLogs (wasHeld : Bool)
  | finished
  | failed (wasRunning : Bool)
  deriving Repr

namespace Feed

def started (capacity : Nat) : Feed := ⟨.empty capacity, .started⟩

def perform (move : Move) (feed : Feed) : Notice × Feed :=
  match move with
  | .send log =>
    let (offer, logs) := feed.logs.offer log
    (.sent offer, { feed with logs })
  | .closeLogs => (.closedLogs feed.logs.hasSender, { feed with logs := feed.logs.closeSender })
  | .finish => (.finished, ⟨feed.logs.closeSender, feed.subscription.exit (.ok ())⟩)
  | .fail e =>
    (.failed feed.subscription.isRunning,
      { feed with subscription := feed.subscription.exit (.error e) })

/-- The producer lets go of the sending end and ends with a result. -/
def leave (result : Except ContractError Unit) (feed : Feed) : Feed :=
  ⟨feed.logs.closeSender, feed.subscription.exit result⟩

end Feed

/-- A producer that needs no node: it waits to be told, or it replays logs that are already at
hand. -/
inductive Producer where
  | idle
  | replay (rest : List Log)
  deriving Repr

namespace Producer

/-- One step of a producer, unless it has ended or has to wait. An idle one ends when told to quit
and leaves the sending end to the outsiders. A replaying one ends when told to quit, before it sends
anything more, and when no log is left or nobody receives. -/
def step? (p : Producer) (feed : Feed) : Option (Producer × Feed) :=
  if !feed.subscription.isRunning then none
  else match p with
  | .idle =>
    if feed.subscription.isTold then
      some (p, { feed with subscription := feed.subscription.exit (.ok ()) })
    else none
  | .replay rest =>
    if feed.subscription.isTold || !feed.logs.hasReceiver then some (.replay rest, feed.leave (.ok ()))
    else match rest with
    | [] => some (.replay [], feed.leave (.ok ()))
    | log :: rest =>
      if feed.logs.hasRoom then some (.replay rest, { feed with logs := feed.logs.push log })
      else none

def work : Producer → Nat
  | .idle => 1
  | .replay rest => rest.length + 1

end Producer

/-- The feed that replays logs: it has room for all of them. -/
def Feed.replaying (logs : List Log) : Producer × Feed :=
  (.replay logs, .started (max logs.length 1))

/-- Repeats a step until it cannot be taken, `fuel` times at most. -/
def settle {σ : Type} (step? : σ → Option σ) (fuel : Nat) (s : σ) : σ :=
  match fuel with
  | 0 => s
  | fuel + 1 =>
    match step? s with
    | none => s
    | some s => settle step? fuel s

end NameRights
