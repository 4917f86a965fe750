/- NameRights/Feed/Tap
   digest: What the consumer of a watched event holds, and the moves it makes. -/

import NameRights.Feed.Forwarder

set_option autoImplicit false
set_option relaxedAutoImplicit false

namespace NameRights

/-- What a consumer holds: a feed of logs, or the sink and the handle of a forwarder of records. -/
inductive Tap (kind : EventKind) where
  | raw (feed : Feed)
  | decoded (forwarder : Forwarder kind)

namespace Tap

variable {kind : EventKind}

/-- What a consumer receives: a log or a record. -/
inductive Item (kind : EventKind) where
  | log (log : Log)
  | record (record : kind.Record)

def feed : Tap kind → Feed
  | raw feed => feed
  | decoded f => f.feed

def withFeed (feed : Feed) : Tap kind → Tap kind
  | raw _ => raw feed
  | decoded f => decoded { f with feed }

def handle : Tap kind → Subscription
  | raw feed => feed.subscription
  | decoded f => f.handle

def withHandle (handle : Subscription) : Tap kind → Tap kind
  | raw feed => raw { feed with subscription := handle }
  | decoded f => decoded { f with handle }

/-- The next item, or `none` inside if there will be none. Nothing as long as that is open. -/
def receive? : Tap kind → Option (Option (Item kind) × Tap kind)
  | raw feed =>
    match feed.logs.pop? with
    | some (log, logs) => some (some (.log log), raw { feed with logs })
    | none => if feed.logs.hasSender && feed.logs.hasReceiver then none else some (none, raw feed)
  | decoded f =>
    match f.sink.pop? with
    | some (record, sink) => some (some (.record record), decoded { f with sink })
    | none => if f.sink.hasSender && f.sink.hasReceiver then none else some (none, decoded f)

/-- Collects the verdict of the producer or the forwarder, once there is one. -/
def verdict? (tap : Tap kind) : Option (Option ContractError × Tap kind) :=
  tap.handle.verdict?.map fun (failure, handle) => (failure, tap.withHandle handle)

def tell (tap : Tap kind) : Tap kind := tap.withHandle tap.handle.tell

def join? (tap : Tap kind) : Option (Tap kind) := tap.handle.join?.map tap.withHandle

def dropReceiver : Tap kind → Tap kind
  | raw feed => raw { feed with logs := feed.logs.dropReceiver }
  | decoded f => decoded { f with sink := f.sink.dropReceiver }

/-- One step of the forwarder. Without one there is nothing to do. -/
def step? : Tap kind → Option (Tap kind)
  | raw _ => none
  | decoded f => f.step?.map decoded

/-- The steps that a forwarder can take at most if its feed does not move. -/
def work : Tap kind → Nat
  | raw _ => 0
  | decoded f => f.work

end Tap

/-- A move of a consumer: it receives, asks for the verdict, unsubscribes and waits for the end,
drops its handle, or lets go of the receiving end. -/
inductive Tap.Move where
  | receive
  | verdict
  | unsubscribe
  | dropHandle
  | dropReceiver
  deriving Repr, DecidableEq

/-- What a consumer learns from a move. `waiting` stands for an answer that is still open. -/
inductive Tap.Notice (kind : EventKind) where
  | received (item : Item kind)
  | closed
  | verdict (failure : Option ContractError)
  | waiting
  | done

end NameRights
