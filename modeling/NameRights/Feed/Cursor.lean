/- NameRights/Feed/Cursor
   digest: Reading a log feed record by record, at the reader's pace. -/

import NameRights.Event.Kind
import NameRights.Feed.Basic

set_option autoImplicit false
set_option relaxedAutoImplicit false

namespace NameRights

/-- Where a cursor stands: it waits on the feed, or takes only what is already queued, or nothing is
left, or a log could not be read. -/
inductive Cursor.Phase where
  | active
  | draining
  | exhausted
  | failed
  deriving Repr, DecidableEq

/-- A cursor over the records of one event. Logs queued before the feed ended or failed are still
read. A log that is no record of the event stops the cursor for good. -/
structure Cursor (kind : EventKind) where
  event : Abi.Event
  feed : Feed
  phase : Cursor.Phase
  current : Option kind.Record
  failure : Option ContractError
  feedFailure : Option ContractError

namespace Cursor

variable {kind : EventKind}

def start (event : Abi.Event) (feed : Feed) : Cursor kind := ⟨event, feed, .active, none, none, none⟩

def read (log : Log) (c : Cursor kind) : Bool × Cursor kind :=
  match kind.decode c.event log with
  | .ok record => (true, { c with current := some record })
  | .error e => (false, { c with current := none, failure := some e, phase := .failed })

def readQueued? (c : Cursor kind) : Option (Bool × Cursor kind) :=
  c.feed.logs.pop?.map fun (log, logs) => { c with feed.logs := logs }.read log

/-- Reads the first queued log, or ends. -/
def drain (c : Cursor kind) : Bool × Cursor kind :=
  c.readQueued?.getD (false, { c with phase := .exhausted })

def heed (c : Cursor kind) : Cursor kind :=
  match c.phase with
  | .active =>
    match c.feed.subscription.verdict? with
    | some (failure, subscription) =>
      { c with feed.subscription := subscription, phase := .draining,
               feedFailure := failure.orElse fun _ => c.feedFailure }
    | none => c
  | .draining | .exhausted | .failed => c

/-- Looks at the queued logs: whether there is a next record, or nothing as long as that is open. -/
def attempt? (c : Cursor kind) : Option (Bool × Cursor kind) :=
  match c.phase with
  | .exhausted | .failed => some (false, c)
  | .draining => some c.drain
  | .active => c.readQueued?

/-- Goes on to the next record: whether there is one, or nothing as long as that is open. The feed's
verdict is looked at before its logs. -/
def next? (c : Cursor kind) : Option (Bool × Cursor kind) := c.heed.attempt?

def take (c : Cursor kind) : Option kind.Record × Cursor kind := (c.current, { c with current := none })

def beginClose (c : Cursor kind) : Cursor kind :=
  { c with feed.subscription := c.feed.subscription.tell }

/-- Joins the feed's producer once it has ended. From then on only queued logs are read. -/
def endClose? (c : Cursor kind) : Option (Cursor kind) :=
  c.feed.subscription.join?.map fun subscription =>
    { c with feed.subscription := subscription
             phase := if c.phase = .active then .draining else c.phase }

end Cursor

end NameRights
