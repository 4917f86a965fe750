/- NameRights/Node/Transaction
   digest: Transactions signed here, in the coding that a node takes them in. -/

import NameRights.Node.Rlp
import NameRights.Transport

set_option autoImplicit false
set_option relaxedAutoImplicit false

namespace NameRights

/-- A transaction with all its terms settled. The gas price of one with capped fees is the cap. -/
structure Transaction where
  recipient : Address
  nonce : Word
  gas : Word
  gasPrice : Word
  value : Word
  data : Bytes
  type : Option Count
  accessList : List AccessListItem
  maxPriorityFee : Word
  deriving Repr

/-- The forms of transactions: without a type, with a list of places visited, and with capped
fees. -/
inductive TransactionForm where
  | legacy
  | accessList
  | cappedFees
  deriving DecidableEq, Repr

namespace Transaction

def form? : Option Count → Option TransactionForm
  | none => some .legacy
  | some n =>
    if n = 0 then some .legacy
    else if n = 1 then some .accessList
    else if n = 2 then some .cappedFees
    else none

def item (w : Word) : Rlp := .nat w.toNat

def places (list : List AccessListItem) : Rlp :=
  .list (list.map fun access =>
    .list [.bytes access.address.bytes, .list (access.storageKeys.map fun h => .bytes h.bytes)])

/-- The six items that every transaction without capped fees holds. -/
def common (t : Transaction) : List Rlp :=
  [item t.nonce, item t.gasPrice, item t.gas, .bytes t.recipient.bytes, item t.value, .bytes t.data]

def signatureItems (s : Signed) : List Rlp :=
  [.nat s.v, .nat s.r.value.toNat, .nat s.s.value.toNat]

def body (t : Transaction) (chain : Nat) : TransactionForm → List Rlp
  | .legacy => t.common
  | .accessList => .nat chain :: t.common ++ [places t.accessList]
  | .cappedFees =>
    [.nat chain, item t.nonce, item t.maxPriorityFee, item t.gasPrice, item t.gas,
     .bytes t.recipient.bytes, item t.value, .bytes t.data, places t.accessList]

def mark : TransactionForm → Bytes
  | .legacy => []
  | .accessList => [1]
  | .cappedFees => [2]

/-- What takes the place of the signature in the bytes that are hashed. -/
def unsignedItems (chain : Nat) : TransactionForm → List Rlp
  | .legacy => [.nat chain, .nat 0, .nat 0]
  | _ => []

def signingBytes (t : Transaction) (chain : Nat) (form : TransactionForm) : Bytes :=
  mark form ++ (Rlp.list (t.body chain form ++ unsignedItems chain form)).encode

def signedBytes (t : Transaction) (chain : Nat) (form : TransactionForm) (s : Signed) : Bytes :=
  mark form ++ (Rlp.list (t.body chain form ++ signatureItems s)).encode

/-- The signature of a transaction. One of a typed transaction signs its hash as a message. -/
def signature (t : Transaction) (chain : Nat) (form : TransactionForm) (key : SecretKey) :
    Except SigningFault Signed :=
  let hash := Keccak.hash (t.signingBytes chain form)
  match form with
  | .legacy => key.sign hash (some chain)
  | _ => key.signMessage hash

/-- The raw transaction to submit. The mark of a signature, which grows with the chain id, has to fit
in 64 bits. -/
def sign (t : Transaction) (chain : Nat) (key : SecretKey) : Outcome ContractError Bytes :=
  match form? t.type with
  | none => .aborted .unsupportedTransactionType
  | some form =>
    match t.signature chain form key with
    | .ok s =>
      if s.v < UInt64.size then .ok (t.signedBytes chain form s) else .aborted .chainIdTooLarge
    | .error _ => .error (.node .internal)

end Transaction

end NameRights
