/- NameRights/Event/Kind
   digest: The fifteen events of the two contracts, and how their logs are read as records. -/

import NameRights.Event.Parsed
import NameRights.Event.Record

set_option autoImplicit false
set_option relaxedAutoImplicit false

namespace NameRights

/-- The events the client knows. -/
inductive EventKind where
  | transfer
  | approval
  | approvalForAll
  | roleAdminChanged
  | roleGranted
  | roleRevoked
  | baseUriChanged
  | nameRegistered
  | nameRenewed
  | paused
  | unpaused
  | privilegeAssigned
  | privilegeCloned
  | privilegeTotalChanged
  | privilegeTransfer
  deriving DecidableEq, Repr, Inhabited

namespace EventKind

def all : List EventKind :=
  [.transfer, .approval, .approvalForAll, .roleAdminChanged,
   .roleGranted, .roleRevoked, .baseUriChanged, .nameRegistered,
   .nameRenewed, .paused, .unpaused, .privilegeAssigned,
   .privilegeCloned, .privilegeTotalChanged, .privilegeTransfer]

def name : EventKind → String
  | transfer => "Transfer"
  | approval => "Approval"
  | approvalForAll => "ApprovalForAll"
  | roleAdminChanged => "RoleAdminChanged"
  | roleGranted => "RoleGranted"
  | roleRevoked => "RoleRevoked"
  | baseUriChanged => "BaseURIChanged"
  | nameRegistered => "NameRegistered"
  | nameRenewed => "NameRenewed"
  | paused => "Paused"
  | unpaused => "Unpaused"
  | privilegeAssigned => "PrivilegeAssigned"
  | privilegeCloned => "PrivilegeCloned"
  | privilegeTotalChanged => "PrivilegeTotalChanged"
  | privilegeTransfer => "PrivilegeTransfer"

def signature : EventKind → String
  | transfer => "Transfer(address,address,uint256)"
  | approval => "Approval(address,address,uint256)"
  | approvalForAll => "ApprovalForAll(address,address,bool)"
  | roleAdminChanged => "RoleAdminChanged(bytes32,bytes32,bytes32)"
  | roleGranted => "RoleGranted(bytes32,address,address)"
  | roleRevoked => "RoleRevoked(bytes32,address,address)"
  | baseUriChanged => "BaseURIChanged(string)"
  | nameRegistered => "NameRegistered(uint256,string,address,uint256)"
  | nameRenewed => "NameRenewed(uint256,uint256)"
  | paused => "Paused(address)"
  | unpaused => "Unpaused(address)"
  | privilegeAssigned => "PrivilegeAssigned(uint256,uint256,address,uint256)"
  | privilegeCloned => "PrivilegeCloned(uint256,uint256,address,address)"
  | privilegeTotalChanged => "PrivilegeTotalChanged(uint256,uint256)"
  | privilegeTransfer => "PrivilegeTransfer(uint256,uint256,address,address)"

/-- The first topic of the event's logs: the hash of its signature. -/
def topic : EventKind → Hash
  | transfer => ⟨0xddf252ad1be2c89b69c2b068fc378daa952ba7f163c4a11628f55a4df523b3ef⟩
  | approval => ⟨0x8c5be1e5ebec7d5bd14f71427d1e84f3dd0314c0f7b2291e5b200ac8c7c3b925⟩
  | approvalForAll => ⟨0x17307eab39ab6107e8899845ad3d59bd9653f200f220920489ca2b5937696c31⟩
  | roleAdminChanged => ⟨0xbd79b86ffe0ab8e8776151514217cd7cacd52c909f66475c3af44e129f0b00ff⟩
  | roleGranted => ⟨0x2f8788117e7eff1d82e926ec794901d17c78024a50270940304540a733656f0d⟩
  | roleRevoked => ⟨0xf6391f5c32d9c69d2a47ea670b442974b53935d1edc7fd64eb21e047a839171b⟩
  | baseUriChanged => ⟨0x5411e8ebf1636d9e83d5fc4900bf80cbac82e8790da2a4c94db4895e889eedf6⟩
  | nameRegistered => ⟨0xe9b829b8676c143f46f458c54ab9eedea80dc58eaec9c3df7e0134aabf7f9d28⟩
  | nameRenewed => ⟨0x9b87a00e30f1ac65d898f070f8a3488fe60517182d0a2098e1b4b93a54aa9bd6⟩
  | paused => ⟨0x62e78cea01bee320cd4e420270b5ea74000d11b0c9f74754ebdbfc544b05a258⟩
  | unpaused => ⟨0x5db9ee0a495bf2e6ff9c91a7834c1ba4fdd244a5e8aa4e537bd38aeae4b073aa⟩
  | privilegeAssigned => ⟨0x00ec38d8c28ef03d08af2b7530ba918d5a692f49a4537f44a942c56b164881ad⟩
  | privilegeCloned => ⟨0xd4f223941a2c534b456865fe345fcaf94f8de1433f296fda49a5d781fb5aa7a4⟩
  | privilegeTotalChanged => ⟨0x9011f83234bb30fe77ffded4ddf24b5eefdf095a32a7abe4f02c0ddb77d44919⟩
  | privilegeTransfer => ⟨0x9055f08a8458f82dd574e184a0c42e6acd497eb3a1f9b4c2c1e74da911186658⟩

abbrev Record : EventKind → Type
  | transfer => Transfer
  | approval => Approval
  | approvalForAll => ApprovalForAll
  | roleAdminChanged => RoleAdminChanged
  | roleGranted => RoleGranted
  | roleRevoked => RoleRevoked
  | baseUriChanged => BaseUriChanged
  | nameRegistered => NameRegistered
  | nameRenewed => NameRenewed
  | paused => Paused
  | unpaused => Unpaused
  | privilegeAssigned => PrivilegeAssigned
  | privilegeCloned => PrivilegeCloned
  | privilegeTotalChanged => PrivilegeTotalChanged
  | privilegeTransfer => PrivilegeTransfer

def read (raw : Log) : (kind : EventKind) → LogParams.Reader kind.Record
  | transfer => do
    let source ← LogParams.get .address "from"
    let target ← LogParams.get .address "to"
    let tokenId ← LogParams.get .word "tokenId"
    return ⟨source, target, tokenId, raw⟩
  | approval => do
    let owner ← LogParams.get .address "owner"
    let approved ← LogParams.get .address "approved"
    let tokenId ← LogParams.get .word "tokenId"
    return ⟨owner, approved, tokenId, raw⟩
  | approvalForAll => do
    let owner ← LogParams.get .address "owner"
    let operator ← LogParams.get .address "operator"
    let approved ← LogParams.get .bool "approved"
    return ⟨owner, operator, approved, raw⟩
  | roleAdminChanged => do
    let role ← LogParams.get .hash "role"
    let previousAdminRole ← LogParams.get .hash "previousAdminRole"
    let newAdminRole ← LogParams.get .hash "newAdminRole"
    return ⟨role, previousAdminRole, newAdminRole, raw⟩
  | roleGranted => do
    let role ← LogParams.get .hash "role"
    let account ← LogParams.get .address "account"
    let sender ← LogParams.get .address "sender"
    return ⟨role, account, sender, raw⟩
  | roleRevoked => do
    let role ← LogParams.get .hash "role"
    let account ← LogParams.get .address "account"
    let sender ← LogParams.get .address "sender"
    return ⟨role, account, sender, raw⟩
  | baseUriChanged => do
    let baseUri ← LogParams.get .text "baseURI"
    return ⟨baseUri, raw⟩
  | nameRegistered => do
    let id ← LogParams.get .word "id"
    let name ← LogParams.get .text "name"
    let owner ← LogParams.get .address "owner"
    let expires ← LogParams.get .word "expires"
    return ⟨id, name, owner, expires, raw⟩
  | nameRenewed => do
    let id ← LogParams.get .word "id"
    let expires ← LogParams.get .word "expires"
    return ⟨id, expires, raw⟩
  | paused => do
    let account ← LogParams.get .address "account"
    return ⟨account, raw⟩
  | unpaused => do
    let account ← LogParams.get .address "account"
    return ⟨account, raw⟩
  | privilegeAssigned => do
    let tokenId ← LogParams.get .word "tokenId"
    let privilegeId ← LogParams.get .word "privilegeId"
    let user ← LogParams.get .address "user"
    let expires ← LogParams.get .word "expires"
    return ⟨tokenId, privilegeId, user, expires, raw⟩
  | privilegeCloned => do
    let tokenId ← LogParams.get .word "tokenId"
    let privilegeId ← LogParams.get .word "privilegeId"
    let source ← LogParams.get .address "from"
    let target ← LogParams.get .address "to"
    return ⟨tokenId, privilegeId, source, target, raw⟩
  | privilegeTotalChanged => do
    let newTotal ← LogParams.get .word "newTotal"
    let oldTotal ← LogParams.get .word "oldTotal"
    return ⟨newTotal, oldTotal, raw⟩
  | privilegeTransfer => do
    let tokenId ← LogParams.get .word "tokenId"
    let privilegeId ← LogParams.get .word "privilegeId"
    let source ← LogParams.get .address "from"
    let target ← LogParams.get .address "to"
    return ⟨tokenId, privilegeId, source, target, raw⟩

def decode (kind : EventKind) (event : Abi.Event) (log : Log) :
    Except ContractError kind.Record := do
  let values ← (event.parse log.topics log.data).mapError .abi
  let (record, _) ← kind.read log ⟨values⟩
  return record

def raw : (kind : EventKind) → kind.Record → Log
  | transfer, r => r.raw
  | approval, r => r.raw
  | approvalForAll, r => r.raw
  | roleAdminChanged, r => r.raw
  | roleGranted, r => r.raw
  | roleRevoked, r => r.raw
  | baseUriChanged, r => r.raw
  | nameRegistered, r => r.raw
  | nameRenewed, r => r.raw
  | paused, r => r.raw
  | unpaused, r => r.raw
  | privilegeAssigned, r => r.raw
  | privilegeCloned, r => r.raw
  | privilegeTotalChanged, r => r.raw
  | privilegeTransfer, r => r.raw

def ofName? (name : String) : Option EventKind := all.find? (·.name == name)

end EventKind

/-- A value of a record. -/
inductive Datum where
  | address (value : Address)
  | word (value : Word)
  | hash (value : Hash)
  | bool (value : Bool)
  | text (value : String)
  deriving Repr, DecidableEq

def EventKind.values : (kind : EventKind) → kind.Record → List (String × Datum)
  | .transfer, r =>
    [("from", .address r.source), ("to", .address r.target), ("token_id", .word r.tokenId)]
  | .approval, r =>
    [("owner", .address r.owner), ("approved", .address r.approved), ("token_id", .word r.tokenId)]
  | .approvalForAll, r =>
    [("owner", .address r.owner), ("operator", .address r.operator), ("approved", .bool r.approved)]
  | .roleAdminChanged, r =>
    [("role", .hash r.role), ("previous_admin_role", .hash r.previousAdminRole),
     ("new_admin_role", .hash r.newAdminRole)]
  | .roleGranted, r =>
    [("role", .hash r.role), ("account", .address r.account), ("sender", .address r.sender)]
  | .roleRevoked, r =>
    [("role", .hash r.role), ("account", .address r.account), ("sender", .address r.sender)]
  | .baseUriChanged, r => [("base_uri", .text r.baseUri)]
  | .nameRegistered, r =>
    [("id", .word r.id), ("name", .text r.name),
     ("owner", .address r.owner), ("expires", .word r.expires)]
  | .nameRenewed, r => [("id", .word r.id), ("expires", .word r.expires)]
  | .paused, r => [("account", .address r.account)]
  | .unpaused, r => [("account", .address r.account)]
  | .privilegeAssigned, r =>
    [("token_id", .word r.tokenId), ("privilege_id", .word r.privilegeId),
     ("user", .address r.user), ("expires", .word r.expires)]
  | .privilegeCloned, r =>
    [("token_id", .word r.tokenId), ("privilege_id", .word r.privilegeId),
     ("from", .address r.source), ("to", .address r.target)]
  | .privilegeTotalChanged, r => [("new_total", .word r.newTotal), ("old_total", .word r.oldTotal)]
  | .privilegeTransfer, r =>
    [("token_id", .word r.tokenId), ("privilege_id", .word r.privilegeId),
     ("from", .address r.source), ("to", .address r.target)]

end NameRights
