/- NameRights/Node/Poller
   digest: A producer that polls a filter installed at a node. -/

import NameRights.Feed.Basic
import NameRights.Node.Exchange

set_option autoImplicit false
set_option relaxedAutoImplicit false

namespace NameRights

/-- Where a poller stands: it rests until the next poll, or has asked for new logs, or delivers
them, or is about to have its filter forgotten, or has asked for that, or is gone. -/
inductive Poller.Phase where
  | resting
  | asking
  | delivering (logs : List Log)
  | leaving (result : Except ContractError Unit)
  | forgetting (result : Except ContractError Unit)
  | gone
  deriving Repr

/-- A poller of an installed filter. -/
structure Poller where
  filter : String
  phase : Poller.Phase
  deriving Repr

namespace Poller

def start (filter : String) : Poller := ⟨filter, .resting⟩

/-- The result is decided: the poller lets go of the sending end, and then has its filter
forgotten. -/
def leave (result : Except ContractError Unit) (p : Poller) (feed : Feed) : Poller × Feed :=
  ({ p with phase := .leaving result }, { feed with logs := feed.logs.closeSender })

/-- One step that needs neither time nor an answer, with the request it sends. To quit comes
first; and if nobody receives the logs, there is no use in more of them. -/
def step? (p : Poller) (feed : Feed) : Option (Option Request × Poller × Feed) :=
  match p.phase with
  | .leaving result =>
    some (some (Node.uninstallRequest p.filter), { p with phase := .forgetting result }, feed)
  | .forgetting _ | .gone => none
  | .resting | .asking => if feed.subscription.isTold then some (none, p.leave (.ok ()) feed) else none
  | .delivering logs =>
    if feed.subscription.isTold then some (none, p.leave (.ok ()) feed)
    else match logs with
    | [] => some (none, { p with phase := .resting }, feed)
    | log :: rest =>
      if !feed.logs.hasReceiver then some (none, p.leave (.ok ()) feed)
      else if feed.logs.hasRoom then
        some (none, { p with phase := .delivering rest }, { feed with logs := feed.logs.push log })
      else none

def wake? (p : Poller) : Option (Request × Poller) :=
  match p.phase with
  | .resting => some (Node.pollRequest p.filter, { p with phase := .asking })
  | _ => none

/-- The answer to the last request. A failed poll is the result, whatever the node answers when it
is asked to forget the filter. -/
def hear (reply : Reply) (p : Poller) (feed : Feed) : Poller × Feed :=
  match p.phase with
  | .asking =>
    match Node.readPoll reply with
    | .ok logs => ({ p with phase := .delivering logs }, feed)
    | .error e => p.leave (.error e) feed
  | .forgetting result =>
    ({ p with phase := .gone }, { feed with subscription := feed.subscription.exit result })
  | _ => (p, feed)

/-- The steps a poller can take at most before it needs time or an answer. -/
def work (p : Poller) : Nat :=
  match p.phase with
  | .delivering logs => logs.length + 3
  | _ => 3

end Poller

end NameRights
