/- NameRights/Contract/Registry
   digest: What the name registry can be asked and told. -/

import NameRights.Contract.Call

set_option autoImplicit false
set_option relaxedAutoImplicit false

namespace NameRights.Registry

/-- Questions that are answered without a transaction, by the type of the answer. -/
inductive Read : Type → Type where
  /-- Whether a name can be registered. -/
  | available (id : Word) : Read Bool
  /-- Number of tokens of an owner. -/
  | balanceOf (owner : Address) : Read Word
  /-- The node all names are registered under. -/
  | baseNode : Read Hash
  /-- The role that administers every role by default. -/
  | defaultAdminRole : Read Hash
  /-- The account that may manage a token, zero for none. -/
  | getApproved (tokenId : Word) : Read Address
  /-- The role that may give and take a role. -/
  | getRoleAdmin (role : Hash) : Read Hash
  /-- Seconds an expired name stays reserved for its last owner. -/
  | gracePeriod : Read Word
  /-- Whether an account has a role. -/
  | hasRole (role : Hash) (account : Address) : Read Bool
  /-- Whether an operator may manage all tokens of an owner. -/
  | isApprovedForAll (owner : Address) (operator : Address) : Read Bool
  /-- The name of the collection. -/
  | name : Read String
  /-- When the registration of a name runs out. -/
  | nameExpires (id : Word) : Read Word
  /-- The label of a name. -/
  | nameOf (id : Word) : Read String
  /-- The owner of a token. -/
  | ownerOf (tokenId : Word) : Read Address
  /-- Whether the registry is paused. -/
  | paused : Read Bool
  /-- The role that registers names. -/
  | registrarRole : Read Hash
  /-- Whether an interface is supported. -/
  | supportsInterface (interfaceId : Selector) : Read Bool
  /-- The symbol of the collection. -/
  | symbol : Read String
  /-- Where the metadata of a token are. -/
  | tokenUri (tokenId : Word) : Read String

/-- Changes that take a transaction. -/
inductive Write where
  /-- Lets an account manage a token. -/
  | approve (target : Address) (tokenId : Word)
  /-- Gives a role. -/
  | grantRole (role : Hash) (account : Address)
  /-- Pauses the registry. -/
  | pause
  /-- Hands the token of an expired name back. -/
  | reclaim (id : Word) (owner : Address)
  /-- Registers a name for some seconds. -/
  | register (name : String) (owner : Address) (duration : Word)
  /-- Extends a registration by some seconds. -/
  | renew (id : Word) (duration : Word)
  /-- Drops a role of the sender. -/
  | renounceRole (role : Hash) (account : Address)
  /-- Takes a role. -/
  | revokeRole (role : Hash) (account : Address)
  /-- Moves a token to an account that can hold it. -/
  | safeTransferFrom (source : Address) (target : Address) (tokenId : Word)
  /-- Moves a token with data for the receiver. -/
  | safeTransferFromWithData (source : Address) (target : Address) (tokenId : Word) (data : Bytes)
  /-- Lets an operator manage all tokens of the sender, or stops that. -/
  | setApprovalForAll (operator : Address) (approved : Bool)
  /-- Says where token metadata are. -/
  | setBaseUri (baseUri : String)
  /-- Moves a token. -/
  | transferFrom (source : Address) (target : Address) (tokenId : Word)
  /-- Ends a pause. -/
  | unpause

def Read.call : {α : Type} → Read α → Call α
  | _, .available id => ⟨⟨.registry, "available", [.uint id]⟩, .single .bool⟩
  | _, .balanceOf owner => ⟨⟨.registry, "balanceOf", [.address owner]⟩, .single .word⟩
  | _, .baseNode => ⟨⟨.registry, "baseNode", []⟩, .single .hash⟩
  | _, .defaultAdminRole => ⟨⟨.registry, "DEFAULT_ADMIN_ROLE", []⟩, .single .hash⟩
  | _, .getApproved tokenId => ⟨⟨.registry, "getApproved", [.uint tokenId]⟩, .single .address⟩
  | _, .getRoleAdmin role =>
    ⟨⟨.registry, "getRoleAdmin", [.fixedBytes role.bytes]⟩, .single .hash⟩
  | _, .gracePeriod => ⟨⟨.registry, "GRACE_PERIOD", []⟩, .single .word⟩
  | _, .hasRole role account =>
    ⟨⟨.registry, "hasRole", [.fixedBytes role.bytes, .address account]⟩, .single .bool⟩
  | _, .isApprovedForAll owner operator =>
    ⟨⟨.registry, "isApprovedForAll", [.address owner, .address operator]⟩, .single .bool⟩
  | _, .name => ⟨⟨.registry, "name", []⟩, .single .text⟩
  | _, .nameExpires id => ⟨⟨.registry, "nameExpires", [.uint id]⟩, .single .word⟩
  | _, .nameOf id => ⟨⟨.registry, "nameOf", [.uint id]⟩, .single .text⟩
  | _, .ownerOf tokenId => ⟨⟨.registry, "ownerOf", [.uint tokenId]⟩, .single .address⟩
  | _, .paused => ⟨⟨.registry, "paused", []⟩, .single .bool⟩
  | _, .registrarRole => ⟨⟨.registry, "REGISTRAR_ROLE", []⟩, .single .hash⟩
  | _, .supportsInterface interfaceId =>
    ⟨⟨.registry, "supportsInterface", [.fixedBytes interfaceId.bytes]⟩, .single .bool⟩
  | _, .symbol => ⟨⟨.registry, "symbol", []⟩, .single .text⟩
  | _, .tokenUri tokenId => ⟨⟨.registry, "tokenURI", [.uint tokenId]⟩, .single .text⟩

def Write.invocation : Write → Invocation
  | .approve target tokenId => ⟨.registry, "approve", [.address target, .uint tokenId]⟩
  | .grantRole role account =>
    ⟨.registry, "grantRole", [.fixedBytes role.bytes, .address account]⟩
  | .pause => ⟨.registry, "pause", []⟩
  | .reclaim id owner => ⟨.registry, "reclaim", [.uint id, .address owner]⟩
  | .register name owner duration =>
    ⟨.registry, "register", [.string name, .address owner, .uint duration]⟩
  | .renew id duration => ⟨.registry, "renew", [.uint id, .uint duration]⟩
  | .renounceRole role account =>
    ⟨.registry, "renounceRole", [.fixedBytes role.bytes, .address account]⟩
  | .revokeRole role account =>
    ⟨.registry, "revokeRole", [.fixedBytes role.bytes, .address account]⟩
  | .safeTransferFrom source target tokenId =>
    ⟨.registry, "safeTransferFrom", [.address source, .address target, .uint tokenId]⟩
  | .safeTransferFromWithData source target tokenId data =>
    ⟨.registry, "safeTransferFrom",
      [.address source, .address target, .uint tokenId, .bytes data]⟩
  | .setApprovalForAll operator approved =>
    ⟨.registry, "setApprovalForAll", [.address operator, .bool approved]⟩
  | .setBaseUri baseUri => ⟨.registry, "setBaseURI", [.string baseUri]⟩
  | .transferFrom source target tokenId =>
    ⟨.registry, "transferFrom", [.address source, .address target, .uint tokenId]⟩
  | .unpause => ⟨.registry, "unpause", []⟩

end NameRights.Registry
