/- NameRights/Node/Exchange
   digest: Requests to a node over JSON-RPC, and how they serve a contract client. -/

import NameRights.Node.Form
import NameRights.Node.Transaction
import NameRights.Transport

set_option autoImplicit false
set_option relaxedAutoImplicit false

namespace NameRights

/-- A request: a method and its parameters. -/
structure Request where
  method : String
  params : List Json
  deriving Repr

abbrev Reply := Except NodeError Json

abbrev Exchange (α : Type) := Session Request (fun _ => Reply) ContractError α

namespace Exchange

def request {α : Type} (method : String) (params : List Json) (read : Json → Option α) :
    Exchange α :=
  .ask ⟨method, params⟩ fun reply =>
    match reply with
    | .error e => .fail (.node e)
    | .ok j =>
      match read j with
      | some a => .done (.ok a)
      | none => .fail (.node .undecodable)

end Exchange

namespace Form

def ofBlock : BlockId → Json
  | .latest => .text "latest"
  | .earliest => .text "earliest"
  | .pending => .text "pending"
  | .number n => ofCount n
  | .hash h => .record [("blockHash", ofHash h)]

/-- A field that is left out when there is nothing to say. -/
def optional {α : Type} (name : String) (encode : α → Json) (value : Option α) :
    List (String × Json) :=
  (value.map fun a => (name, encode a)).toList

def ofAccessList (list : List AccessListItem) : Json :=
  .list (list.map fun access =>
    .record [("address", ofAddress access.address),
      ("storageKeys", .list (access.storageKeys.map ofHash))])

def ofCall (sender : Option Address) (recipient : Address) (data : Bytes) (value : Option Word) :
    Json :=
  .record (optional "from" ofAddress sender ++ [("to", ofAddress recipient)] ++
    optional "value" ofWord value ++ [("data", ofBytes data)])

def ofTransaction (sender recipient : Address) (data : Bytes) (gas : Word)
    (terms : TransactionTerms) : Json :=
  .record ([("from", ofAddress sender), ("to", ofAddress recipient), ("gas", ofWord gas)] ++
    optional "gasPrice" ofWord terms.gasPrice ++ optional "value" ofWord terms.value ++
    [("data", ofBytes data)] ++ optional "nonce" ofWord terms.nonce ++
    optional "condition" (fun n => .record [("block", .ofNat (BitVec.toNat n))])
      terms.conditionBlock ++
    optional "type" ofCount terms.type ++ optional "accessList" ofAccessList terms.accessList ++
    optional "maxFeePerGas" ofWord terms.maxFee ++
    optional "maxPriorityFeePerGas" ofWord terms.maxPriorityFee)

def receipt? (j : Json) : Option Receipt := do
  let transactionHash ← required? hash? j "transactionHash"
  let transactionIndex ← required? count? j "transactionIndex"
  let blockHash ← field? hash? j "blockHash"
  let blockNumber ← field? count? j "blockNumber"
  let sender ← match j.field? "from" with
    | none => some Address.zero
    | some sender => address? sender
  let recipient ← field? address? j "to"
  let cumulativeGasUsed ← required? word? j "cumulativeGasUsed"
  let gasUsed ← field? word? j "gasUsed"
  let contractAddress ← field? address? j "contractAddress"
  let logs ← required? (list? log?) j "logs"
  let status ← field? count? j "status"
  let root ← field? hash? j "root"
  let logsBloom ← required? (exactBytes? 256) j "logsBloom"
  let type ← field? count? j "type"
  let effectiveGasPrice ← field? word? j "effectiveGasPrice"
  some { transactionHash, transactionIndex, blockHash, blockNumber, sender, recipient,
         cumulativeGasUsed, gasUsed, contractAddress, logs, status, root, logsBloom, type,
         effectiveGasPrice }

def ofReceipt (r : Receipt) : Json :=
  .record ([("transactionHash", ofHash r.transactionHash),
    ("transactionIndex", ofCount r.transactionIndex),
    ("blockHash", .ofOption ofHash r.blockHash),
    ("blockNumber", .ofOption ofCount r.blockNumber),
    ("from", ofAddress r.sender),
    ("to", .ofOption ofAddress r.recipient),
    ("cumulativeGasUsed", ofWord r.cumulativeGasUsed),
    ("gasUsed", .ofOption ofWord r.gasUsed),
    ("contractAddress", .ofOption ofAddress r.contractAddress),
    ("logs", .list (r.logs.map ofLog)),
    ("status", .ofOption ofCount r.status),
    ("root", .ofOption ofHash r.root),
    ("logsBloom", ofBytes r.logsBloom),
    ("effectiveGasPrice", .ofOption ofWord r.effectiveGasPrice)] ++
    optional "type" ofCount r.type)

end Form

namespace Node

open Exchange

def call (recipient : Address) (data : Bytes) (options : CallOptions) : Exchange Bytes :=
  request "eth_call"
    [Form.ofCall options.sender recipient data none, Form.ofBlock (options.block.getD .latest)]
    Form.bytes?

def estimateGas (sender recipient : Address) (data : Bytes) (value : Option Word) :
    Exchange Word :=
  request "eth_estimateGas" [Form.ofCall (some sender) recipient data value] Form.word?

def transactionCount (account : Address) : Exchange Word :=
  request "eth_getTransactionCount" [Form.ofAddress account, .text "latest"] Form.word?

def gasPrice : Exchange Word := request "eth_gasPrice" [] Form.word?

/-- The id of the chain, which has to fit in 64 bits. -/
def chainId : Exchange Nat := do
  let w ← request "eth_chainId" [] Form.word?
  if w.toNat < UInt64.size then return w.toNat else .done (.aborted .chainIdTooLarge)

def givenOr {α : Type} (given : Option α) (ask : Exchange α) : Exchange α :=
  match given with
  | some a => pure a
  | none => ask

def hasCappedFees (terms : TransactionTerms) : Bool := terms.type == some 2

/-- The transaction that a key signs: terms that are not given are asked for. A cap of fees takes
the place of the gas price where the type has one. -/
def settle (recipient : Address) (data : Bytes) (key : SecretKey) (gas : Word)
    (terms : TransactionTerms) : Exchange (Transaction × Nat) := do
  let capped := hasCappedFees terms
  let price := if capped && terms.maxFee.isSome then terms.maxFee else terms.gasPrice
  let nonce ← givenOr terms.nonce (transactionCount key.address)
  let price ← givenOr price gasPrice
  let chain ← chainId
  return ({ recipient, nonce, gas, gasPrice := price, value := terms.value.getD 0, data,
            type := terms.type, accessList := terms.accessList.getD [],
            maxPriorityFee := if capped then terms.maxPriorityFee.getD price else price }, chain)

/-- Submits a transaction: signed here if there is a key, by the node otherwise. Gas that is not
given is estimated first. -/
def transact (recipient : Address) (data : Bytes) (options : TransactOptions) : Exchange Hash := do
  let terms := options.terms
  let gas ← givenOr terms.gas (estimateGas options.sender recipient data terms.value)
  match options.signer with
  | some key =>
    let (transaction, chain) ← settle recipient data key gas terms
    let raw ← Session.ofOutcome (transaction.sign chain key)
    request "eth_sendRawTransaction" [Form.ofBytes raw] Form.hash?
  | none =>
    request "eth_sendTransaction" [Form.ofTransaction options.sender recipient data gas terms]
      Form.hash?

def receipt (transaction : Hash) : Exchange (Option Receipt) :=
  request "eth_getTransactionReceipt" [Form.ofHash transaction] (Form.nullable? Form.receipt?)

def filterLogs (filter : LogFilter) : Exchange (List Log) :=
  request "eth_getLogs" [filter.toJson] (Form.list? Form.log?)

def installFilter (filter : LogFilter) : Exchange String :=
  request "eth_newFilter" [filter.toJson] Json.text?

def pollRequest (id : String) : Request := ⟨"eth_getFilterChanges", [.text id]⟩

def uninstallRequest (id : String) : Request := ⟨"eth_uninstallFilter", [.text id]⟩

/-- Reads the answer to a poll; `null` stands for no logs. -/
def readPoll : Reply → Except ContractError (List Log)
  | .error e => .error (.node e)
  | .ok j =>
    match Form.nullable? (Form.list? Form.log?) j with
    | some logs => .ok (logs.getD [])
    | none => .error (.node .undecodable)

def answer : (q : Question) → Exchange (Answer q)
  | .call recipient data options => (call recipient data options).attempt
  | .transact recipient data options => (transact recipient data options).attempt
  | .receipt transaction => (receipt transaction).attempt
  | .filterLogs filter => (filterLogs filter).attempt
  | .watchLogs filter _ => (installFilter filter).attempt

def serve {α : Type} (d : Dialogue α) : Exchange α := d.refine answer

end Node

end NameRights
