/- NameRights/Transport
   digest: What a contract client asks of the way to the chain, and its answers. -/

import NameRights.Constants
import NameRights.Error
import NameRights.Event.Filter
import NameRights.Key.Secret
import NameRights.Session

set_option autoImplicit false
set_option relaxedAutoImplicit false

namespace NameRights

/-- The block whose state a call is run against. -/
inductive BlockId where
  | latest
  | earliest
  | pending
  | number (n : Count)
  | hash (h : Hash)
  deriving Repr, DecidableEq

/-- How a call is run: the sender the contract sees, and the block, the latest if none is given. -/
structure CallOptions where
  sender : Option Address
  block : Option BlockId
  deriving Repr

/-- An address with the storage places a transaction declares that it will visit. -/
structure AccessListItem where
  address : Address
  storageKeys : List Hash
  deriving Repr, DecidableEq

/-- The terms of a transaction, as far as they are given. -/
structure TransactionTerms where
  gas : Option Word
  gasPrice : Option Word
  value : Option Word
  nonce : Option Word
  maxFee : Option Word
  maxPriorityFee : Option Word
  type : Option Count
  conditionBlock : Option Count
  accessList : Option (List AccessListItem)
  deriving Repr

def TransactionTerms.none : TransactionTerms :=
  ⟨.none, .none, .none, .none, .none, .none, .none, .none, .none⟩

/-- Who sends a transaction, with which key if it is signed here, and on which terms. -/
structure TransactOptions where
  sender : Address
  signer : Option SecretKey
  terms : TransactionTerms

namespace TransactOptions

def unsigned (sender : Address) (terms : TransactionTerms) : TransactOptions :=
  ⟨sender, none, terms⟩

def signed (signer : SecretKey) (terms : TransactionTerms) : TransactOptions :=
  ⟨signer.address, some signer, terms⟩

end TransactOptions

/-- A range of blocks: from the first block if no other is given, up to the latest. -/
structure BlockRange where
  fromBlock : Option Count
  toBlock : Option Count
  deriving Repr

/-- How a log feed is kept open: from the current block on if no other is given, polled at an
interval in milliseconds, with a number of logs held for the consumer. -/
structure WatchOptions where
  fromBlock : Option Count
  pollInterval : Nat
  logBuffer : Nat
  deriving Repr

/-- A feed from the current block on with the usual interval and number of logs. -/
def WatchOptions.usual : WatchOptions := ⟨none, defaultPollInterval, defaultLogBuffer⟩

/-- What became of a mined transaction. -/
structure Receipt where
  transactionHash : Hash
  transactionIndex : Count
  blockHash : Option Hash
  blockNumber : Option Count
  sender : Address
  recipient : Option Address
  cumulativeGasUsed : Word
  gasUsed : Option Word
  contractAddress : Option Address
  logs : List Log
  status : Option Count
  root : Option Hash
  logsBloom : Bytes
  type : Option Count
  effectiveGasPrice : Option Word
  deriving Repr

/-- What a client asks. -/
inductive Question where
  | call (recipient : Address) (data : Bytes) (options : CallOptions)
  | transact (recipient : Address) (data : Bytes) (options : TransactOptions)
  | receipt (transaction : Hash)
  | filterLogs (filter : LogFilter)
  | watchLogs (filter : LogFilter) (options : WatchOptions)

/-- The type of a good answer: output bytes, a transaction's hash, a receipt unless the transaction
is not mined, logs, or the id of an open feed. -/
abbrev Question.Value : Question → Type
  | .call .. => Bytes
  | .transact .. => Hash
  | .receipt .. => Option Receipt
  | .filterLogs .. => List Log
  | .watchLogs .. => String

abbrev Answer (q : Question) : Type := Except ContractError q.Value

abbrev Dialogue (α : Type) := Session Question Answer ContractError α

end NameRights
