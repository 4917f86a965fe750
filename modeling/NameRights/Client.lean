/- NameRights/Client
   digest: A contract at an address: calls, transactions, and its logs past and to come. -/

import NameRights.Contract.Call
import NameRights.Event.Filter
import NameRights.Transport

set_option autoImplicit false
set_option relaxedAutoImplicit false

namespace NameRights

def Dialogue.query (q : Question) : Dialogue q.Value := Session.ask q Session.ofExcept

namespace Client

def call {α : Type} (address : Address) (c : Call α) (options : CallOptions) : Dialogue α := do
  let (f, data) ← Session.ofOutcome c.invocation.encode
  let output ← Dialogue.query (.call address data options)
  Session.ofExcept (c.read f output)

/-- Submits a transaction to the contract at an address; the answer is its hash. -/
def transact (address : Address) (i : Invocation) (options : TransactOptions) : Dialogue Hash := do
  let (_, data) ← Session.ofOutcome i.encode
  Dialogue.query (.transact address data options)

def receipt (transaction : Hash) : Dialogue (Option Receipt) :=
  Dialogue.query (.receipt transaction)

/-- The filter of the logs of an event with indexed values among the chosen ones. -/
def eventFilter (address : Address) (c : Contract) (kind : EventKind)
    (choices : EventKind.Choices kind.slots) (fromBlock toBlock : Option Count) :
    Outcome ContractError (Abi.Event × LogFilter) := do
  let event ← Outcome.ofExcept (c.event kind.name)
  let filter ← LogFilter.ofEvent address event (kind.indexedFilter choices) fromBlock toBlock
  return (event, filter)

/-- The logs that an event left in a range of blocks, with the event as the contract declares
it. -/
def filterEvents (address : Address) (c : Contract) (kind : EventKind)
    (choices : EventKind.Choices kind.slots) (range : BlockRange) :
    Dialogue (Abi.Event × List Log) := do
  let (event, filter) ← Session.ofOutcome
    (eventFilter address c kind choices (some (range.fromBlock.getD 0)) range.toBlock)
  let logs ← Dialogue.query (.filterLogs filter)
  return (event, logs)

/-- Opens a feed of the logs an event leaves from now on, or from a block on. -/
def watchEvents (address : Address) (c : Contract) (kind : EventKind)
    (choices : EventKind.Choices kind.slots) (options : WatchOptions) :
    Dialogue (Abi.Event × String) := do
  let (event, filter) ← Session.ofOutcome
    (eventFilter address c kind choices options.fromBlock none)
  let feed ← Dialogue.query (.watchLogs filter options)
  return (event, feed)

end Client

end NameRights
