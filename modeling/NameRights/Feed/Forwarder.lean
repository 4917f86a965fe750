/- NameRights/Feed/Forwarder
   digest: Reading a log feed and pushing the records into a sink, at the feed's pace. -/

import NameRights.Event.Kind
import NameRights.Feed.Basic

set_option autoImplicit false
set_option relaxedAutoImplicit false

namespace NameRights

/-- Where a forwarder stands: it forwards, or its result is decided and it waits for the feed's
producer, or it has let go of feed and sink and is about to report, or it is gone. -/
inductive Forwarder.Stage where
  | forwarding
  | stopping (result : Except ContractError Unit)
  | leaving (result : Except ContractError Unit)
  | gone
  deriving Repr

/-- A forwarder of the records of one event. It remembers whether the feed's producer has not yet
ended well, the record it holds until the sink has room, and the handle that its owner holds. -/
structure Forwarder (kind : EventKind) where
  event : Abi.Event
  feed : Feed
  isFed : Bool
  held : Option kind.Record
  sink : Channel kind.Record
  handle : Subscription
  stage : Forwarder.Stage

namespace Forwarder

variable {kind : EventKind}

def start (event : Abi.Event) (feed : Feed) (capacity : Nat) : Forwarder kind :=
  ⟨event, feed, true, none, .empty capacity, .started, .forwarding⟩

/-- Decides the result, and tells the feed's producer to quit. -/
def decide (result : Except ContractError Unit) (f : Forwarder kind) : Forwarder kind :=
  { f with feed.subscription := f.feed.subscription.tell, stage := .stopping result }

/-- Takes the first queued log. When no log will come, the producer's verdict is the result. -/
def takeLog? (f : Forwarder kind) : Option (Forwarder kind) :=
  match f.feed.logs.pop? with
  | some (log, logs) =>
    let f := { f with feed.logs := logs }
    some (match kind.decode f.event log with
      | .ok record => { f with held := some record }
      | .error e => f.decide (.error e))
  | none =>
    if f.feed.logs.hasSender then none
    else f.feed.subscription.verdict?.map fun (failure, subscription) =>
      { f with feed.subscription := subscription }.decide
        (match failure with
        | none => .ok ()
        | some e => .error e)

def push? (record : kind.Record) (f : Forwarder kind) : Option (Forwarder kind) :=
  if !f.sink.hasReceiver then some (f.decide (.error .sinkClosed))
  else if f.sink.hasRoom then some { f with sink := f.sink.push record, held := none }
  else none

def heedQuit? (f : Forwarder kind) : Option (Forwarder kind) :=
  if f.handle.isTold then some (f.decide (.ok ())) else none

/-- Looks at the verdict of the feed's producer: stops at a failure, and goes on without a producer
that has ended well. -/
def heedVerdict? (f : Forwarder kind) : Option (Forwarder kind) :=
  match if f.isFed then f.feed.subscription.verdict? else none with
  | some (some e, subscription) =>
    some ({ f with feed.subscription := subscription }.decide (.error e))
  | some (none, subscription) => some { f with feed.subscription := subscription, isFed := false }
  | none => none

def carryOn? (f : Forwarder kind) : Option (Forwarder kind) :=
  match f.held with
  | some record => f.push? record
  | none => f.takeLog?

/-- One step of forwarding. To quit comes first, then a failure of the feed, then its logs. -/
def forward? (f : Forwarder kind) : Option (Forwarder kind) :=
  f.heedQuit?.or (f.heedVerdict?.or f.carryOn?)

/-- One step, unless the forwarder has to wait or is gone. Before it lets go of feed and sink, it
waits for the feed's producer; its owner learns the result after that. -/
def step? (f : Forwarder kind) : Option (Forwarder kind) :=
  match f.stage with
  | .forwarding => f.forward?
  | .stopping result =>
    f.feed.subscription.join?.map fun subscription =>
      { f with feed := ⟨f.feed.logs.dropReceiver, subscription⟩, held := none,
               sink := f.sink.closeSender, stage := .leaving result }
  | .leaving result => some { f with handle := f.handle.exit result, stage := .gone }
  | .gone => none

/-- The steps a forwarder can take at most if its feed does not move. -/
def work (f : Forwarder kind) : Nat := 2 * f.feed.logs.items.length + 6

end Forwarder

end NameRights
