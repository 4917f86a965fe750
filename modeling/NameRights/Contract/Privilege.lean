/- NameRights/Contract/Privilege
   digest: What the privilege token can be asked and told. -/

import NameRights.Contract.Call

set_option autoImplicit false
set_option relaxedAutoImplicit false

namespace NameRights.Privilege

/-- Questions that are answered without a transaction, by the type of the answer. -/
inductive Read : Type → Type where
  /-- Number of tokens of an owner. -/
  | balanceOf (owner : Address) : Read Word
  /-- The role that administers every role by default. -/
  | defaultAdminRole : Read Hash
  /-- The account that may manage a token, zero for none. -/
  | getApproved (tokenId : Word) : Read Address
  /-- The role that may give and take a role. -/
  | getRoleAdmin (role : Hash) : Read Hash
  /-- Whether a user holds a privilege now. -/
  | hasPrivilege (tokenId : Word) (privilegeId : Word) (user : Address) : Read Bool
  /-- Whether an account has a role. -/
  | hasRole (role : Hash) (account : Address) : Read Bool
  /-- Whether an operator may manage all tokens of an owner. -/
  | isApprovedForAll (owner : Address) (operator : Address) : Read Bool
  /-- The role that mints tokens. -/
  | minterRole : Read Hash
  /-- The name of the collection. -/
  | name : Read String
  /-- The owner of a token. -/
  | ownerOf (tokenId : Word) : Read Address
  /-- When a privilege runs out. -/
  | privilegeExpires (tokenId : Word) (privilegeId : Word) : Read Word
  /-- The holder of a privilege slot, and when it runs out. -/
  | privilegeOf (tokenId : Word) (privilegeId : Word) : Read (Address × Word)
  /-- Number of privilege slots of every token. -/
  | privilegeTotal : Read Word
  /-- Whether an interface is supported. -/
  | supportsInterface (interfaceId : Selector) : Read Bool
  /-- The symbol of the collection. -/
  | symbol : Read String
  /-- Where the metadata of a token are. -/
  | tokenUri (tokenId : Word) : Read String
  /-- Number of tokens. -/
  | totalSupply : Read Word

/-- Changes that take a transaction. -/
inductive Write where
  /-- Lets an account manage a token. -/
  | approve (target : Address) (tokenId : Word)
  /-- Lends several privileges at once. -/
  | batchSetPrivileges (privileges : List PrivilegeRecord)
  /-- Copies a privilege of the sender. -/
  | clonePrivilege (tokenId : Word) (privilegeId : Word) (referrer : Address)
  /-- Gives a role. -/
  | grantRole (role : Hash) (account : Address)
  /-- Mints a token. -/
  | mint (target : Address)
  /-- Drops a role of the sender. -/
  | renounceRole (role : Hash) (account : Address)
  /-- Takes a role. -/
  | revokeRole (role : Hash) (account : Address)
  /-- Moves a token to an account that can hold it. -/
  | safeTransferFrom (source : Address) (target : Address) (tokenId : Word)
  /-- Moves a token with data for the receiver. -/
  | safeTransferFromWithData (source : Address) (target : Address) (tokenId : Word) (data : Bytes)
  /-- Lets an operator manage all tokens of the sender, or stops that. -/
  | setApprovalForAll (operator : Address) (approved : Bool)
  /-- Says where token metadata are. -/
  | setBaseUri (baseUri : String)
  /-- Lends a privilege slot to a user until a time. -/
  | setPrivilege (tokenId : Word) (privilegeId : Word) (user : Address) (expires : Word)
  /-- Sets the number of privilege slots. -/
  | setPrivilegeTotal (total : Word)
  /-- Moves a token. -/
  | transferFrom (source : Address) (target : Address) (tokenId : Word)

def Read.call : {α : Type} → Read α → Call α
  | _, .balanceOf owner => ⟨⟨.privilege, "balanceOf", [.address owner]⟩, .single .word⟩
  | _, .defaultAdminRole => ⟨⟨.privilege, "DEFAULT_ADMIN_ROLE", []⟩, .single .hash⟩
  | _, .getApproved tokenId => ⟨⟨.privilege, "getApproved", [.uint tokenId]⟩, .single .address⟩
  | _, .getRoleAdmin role =>
    ⟨⟨.privilege, "getRoleAdmin", [.fixedBytes role.bytes]⟩, .single .hash⟩
  | _, .hasPrivilege tokenId privilegeId user =>
    ⟨⟨.privilege, "hasPrivilege", [.uint tokenId, .uint privilegeId, .address user]⟩, .single .bool⟩
  | _, .hasRole role account =>
    ⟨⟨.privilege, "hasRole", [.fixedBytes role.bytes, .address account]⟩, .single .bool⟩
  | _, .isApprovedForAll owner operator =>
    ⟨⟨.privilege, "isApprovedForAll", [.address owner, .address operator]⟩, .single .bool⟩
  | _, .minterRole => ⟨⟨.privilege, "MINTER_ROLE", []⟩, .single .hash⟩
  | _, .name => ⟨⟨.privilege, "name", []⟩, .single .text⟩
  | _, .ownerOf tokenId => ⟨⟨.privilege, "ownerOf", [.uint tokenId]⟩, .single .address⟩
  | _, .privilegeExpires tokenId privilegeId =>
    ⟨⟨.privilege, "privilegeExpires", [.uint tokenId, .uint privilegeId]⟩, .single .word⟩
  | _, .privilegeOf tokenId privilegeId =>
    ⟨⟨.privilege, "privilegeOf", [.uint tokenId, .uint privilegeId]⟩, .pair .address .word⟩
  | _, .privilegeTotal => ⟨⟨.privilege, "privilegeTotal", []⟩, .single .word⟩
  | _, .supportsInterface interfaceId =>
    ⟨⟨.privilege, "supportsInterface", [.fixedBytes interfaceId.bytes]⟩, .single .bool⟩
  | _, .symbol => ⟨⟨.privilege, "symbol", []⟩, .single .text⟩
  | _, .tokenUri tokenId => ⟨⟨.privilege, "tokenURI", [.uint tokenId]⟩, .single .text⟩
  | _, .totalSupply => ⟨⟨.privilege, "totalSupply", []⟩, .single .word⟩

def Write.invocation : Write → Invocation
  | .approve target tokenId => ⟨.privilege, "approve", [.address target, .uint tokenId]⟩
  | .batchSetPrivileges privileges =>
    ⟨.privilege, "batchSetPrivileges", [.array (privileges.map PrivilegeRecord.toValue)]⟩
  | .clonePrivilege tokenId privilegeId referrer =>
    ⟨.privilege, "clonePrivilege", [.uint tokenId, .uint privilegeId, .address referrer]⟩
  | .grantRole role account =>
    ⟨.privilege, "grantRole", [.fixedBytes role.bytes, .address account]⟩
  | .mint target => ⟨.privilege, "mint", [.address target]⟩
  | .renounceRole role account =>
    ⟨.privilege, "renounceRole", [.fixedBytes role.bytes, .address account]⟩
  | .revokeRole role account =>
    ⟨.privilege, "revokeRole", [.fixedBytes role.bytes, .address account]⟩
  | .safeTransferFrom source target tokenId =>
    ⟨.privilege, "safeTransferFrom", [.address source, .address target, .uint tokenId]⟩
  | .safeTransferFromWithData source target tokenId data =>
    ⟨.privilege, "safeTransferFrom",
      [.address source, .address target, .uint tokenId, .bytes data]⟩
  | .setApprovalForAll operator approved =>
    ⟨.privilege, "setApprovalForAll", [.address operator, .bool approved]⟩
  | .setBaseUri baseUri => ⟨.privilege, "setBaseURI", [.string baseUri]⟩
  | .setPrivilege tokenId privilegeId user expires =>
    ⟨.privilege, "setPrivilege", [.uint tokenId, .uint privilegeId, .address user, .uint expires]⟩
  | .setPrivilegeTotal total => ⟨.privilege, "setPrivilegeTotal", [.uint total]⟩
  | .transferFrom source target tokenId =>
    ⟨.privilege, "transferFrom", [.address source, .address target, .uint tokenId]⟩

end NameRights.Privilege
