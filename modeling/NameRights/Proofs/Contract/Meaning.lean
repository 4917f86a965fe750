/- NameRights/Proofs/Contract/Meaning
   digest: The function that every method of a client stands for, and its inputs by name. -/

import NameRights.Contract.Privilege
import NameRights.Contract.Registry

set_option autoImplicit false
set_option relaxedAutoImplicit false

namespace NameRights

open Abi

/-- What a method asks a contract for: a function by its canonical signature, and a value for every
input by the input's name. -/
structure Meaning where
  contract : Contract
  signature : String
  arguments : List (String × Value)

namespace Registry

/-- What a reading method of the registry asks for, by the method's name and parameters. -/
def Read.meaning : {α : Type} → Read α → Meaning
  | _, .available id => ⟨.registry, "available(uint256)", [("id", .uint id)]⟩
  | _, .balanceOf owner => ⟨.registry, "balanceOf(address)", [("owner", .address owner)]⟩
  | _, .baseNode => ⟨.registry, "baseNode()", []⟩
  | _, .defaultAdminRole => ⟨.registry, "DEFAULT_ADMIN_ROLE()", []⟩
  | _, .getApproved tokenId => ⟨.registry, "getApproved(uint256)", [("tokenId", .uint tokenId)]⟩
  | _, .getRoleAdmin role =>
    ⟨.registry, "getRoleAdmin(bytes32)", [("role", .fixedBytes role.bytes)]⟩
  | _, .gracePeriod => ⟨.registry, "GRACE_PERIOD()", []⟩
  | _, .hasRole role account =>
    ⟨.registry, "hasRole(bytes32,address)",
      [("role", .fixedBytes role.bytes), ("account", .address account)]⟩
  | _, .isApprovedForAll owner operator =>
    ⟨.registry, "isApprovedForAll(address,address)",
      [("owner", .address owner), ("operator", .address operator)]⟩
  | _, .name => ⟨.registry, "name()", []⟩
  | _, .nameExpires id => ⟨.registry, "nameExpires(uint256)", [("id", .uint id)]⟩
  | _, .nameOf id => ⟨.registry, "nameOf(uint256)", [("id", .uint id)]⟩
  | _, .ownerOf tokenId => ⟨.registry, "ownerOf(uint256)", [("tokenId", .uint tokenId)]⟩
  | _, .paused => ⟨.registry, "paused()", []⟩
  | _, .registrarRole => ⟨.registry, "REGISTRAR_ROLE()", []⟩
  | _, .supportsInterface interfaceId =>
    ⟨.registry, "supportsInterface(bytes4)", [("interfaceId", .fixedBytes interfaceId.bytes)]⟩
  | _, .symbol => ⟨.registry, "symbol()", []⟩
  | _, .tokenUri tokenId => ⟨.registry, "tokenURI(uint256)", [("tokenId", .uint tokenId)]⟩

/-- What a method that writes to the registry asks for. The two safe transfers are told apart by
their inputs. -/
def Write.meaning : Write → Meaning
  | .approve target tokenId =>
    ⟨.registry, "approve(address,uint256)", [("to", .address target), ("tokenId", .uint tokenId)]⟩
  | .grantRole role account =>
    ⟨.registry, "grantRole(bytes32,address)",
      [("role", .fixedBytes role.bytes), ("account", .address account)]⟩
  | .pause => ⟨.registry, "pause()", []⟩
  | .reclaim id owner =>
    ⟨.registry, "reclaim(uint256,address)", [("id", .uint id), ("owner", .address owner)]⟩
  | .register name owner duration =>
    ⟨.registry, "register(string,address,uint256)",
      [("name", .string name), ("owner", .address owner), ("duration", .uint duration)]⟩
  | .renew id duration =>
    ⟨.registry, "renew(uint256,uint256)", [("id", .uint id), ("duration", .uint duration)]⟩
  | .renounceRole role account =>
    ⟨.registry, "renounceRole(bytes32,address)",
      [("role", .fixedBytes role.bytes), ("account", .address account)]⟩
  | .revokeRole role account =>
    ⟨.registry, "revokeRole(bytes32,address)",
      [("role", .fixedBytes role.bytes), ("account", .address account)]⟩
  | .safeTransferFrom source target tokenId =>
    ⟨.registry, "safeTransferFrom(address,address,uint256)",
      [("from", .address source), ("to", .address target), ("tokenId", .uint tokenId)]⟩
  | .safeTransferFromWithData source target tokenId data =>
    ⟨.registry, "safeTransferFrom(address,address,uint256,bytes)",
      [("from", .address source), ("to", .address target), ("tokenId", .uint tokenId),
       ("data", .bytes data)]⟩
  | .setApprovalForAll operator approved =>
    ⟨.registry, "setApprovalForAll(address,bool)",
      [("operator", .address operator), ("approved", .bool approved)]⟩
  | .setBaseUri baseUri => ⟨.registry, "setBaseURI(string)", [("baseURI", .string baseUri)]⟩
  | .transferFrom source target tokenId =>
    ⟨.registry, "transferFrom(address,address,uint256)",
      [("from", .address source), ("to", .address target), ("tokenId", .uint tokenId)]⟩
  | .unpause => ⟨.registry, "unpause()", []⟩

end Registry

namespace Privilege

/-- What a reading method of the privilege contract asks for. -/
def Read.meaning : {α : Type} → Read α → Meaning
  | _, .balanceOf owner => ⟨.privilege, "balanceOf(address)", [("owner", .address owner)]⟩
  | _, .defaultAdminRole => ⟨.privilege, "DEFAULT_ADMIN_ROLE()", []⟩
  | _, .getApproved tokenId => ⟨.privilege, "getApproved(uint256)", [("tokenId", .uint tokenId)]⟩
  | _, .getRoleAdmin role =>
    ⟨.privilege, "getRoleAdmin(bytes32)", [("role", .fixedBytes role.bytes)]⟩
  | _, .hasPrivilege tokenId privilegeId user =>
    ⟨.privilege, "hasPrivilege(uint256,uint256,address)",
      [("tokenId", .uint tokenId), ("privilegeId", .uint privilegeId), ("user", .address user)]⟩
  | _, .hasRole role account =>
    ⟨.privilege, "hasRole(bytes32,address)",
      [("role", .fixedBytes role.bytes), ("account", .address account)]⟩
  | _, .isApprovedForAll owner operator =>
    ⟨.privilege, "isApprovedForAll(address,address)",
      [("owner", .address owner), ("operator", .address operator)]⟩
  | _, .minterRole => ⟨.privilege, "MINTER_ROLE()", []⟩
  | _, .name => ⟨.privilege, "name()", []⟩
  | _, .ownerOf tokenId => ⟨.privilege, "ownerOf(uint256)", [("tokenId", .uint tokenId)]⟩
  | _, .privilegeExpires tokenId privilegeId =>
    ⟨.privilege, "privilegeExpires(uint256,uint256)",
      [("tokenId", .uint tokenId), ("privilegeId", .uint privilegeId)]⟩
  | _, .privilegeOf tokenId privilegeId =>
    ⟨.privilege, "privilegeOf(uint256,uint256)",
      [("tokenId", .uint tokenId), ("privilegeId", .uint privilegeId)]⟩
  | _, .privilegeTotal => ⟨.privilege, "privilegeTotal()", []⟩
  | _, .supportsInterface interfaceId =>
    ⟨.privilege, "supportsInterface(bytes4)", [("interfaceId", .fixedBytes interfaceId.bytes)]⟩
  | _, .symbol => ⟨.privilege, "symbol()", []⟩
  | _, .tokenUri tokenId => ⟨.privilege, "tokenURI(uint256)", [("tokenId", .uint tokenId)]⟩
  | _, .totalSupply => ⟨.privilege, "totalSupply()", []⟩

/-- What a method that writes to the privilege contract asks for. A record is the tuple of the token,
the privilege, its user and when it expires. -/
def Write.meaning : Write → Meaning
  | .approve target tokenId =>
    ⟨.privilege, "approve(address,uint256)", [("to", .address target), ("tokenId", .uint tokenId)]⟩
  | .batchSetPrivileges privileges =>
    ⟨.privilege, "batchSetPrivileges((uint256,uint256,address,uint256)[])",
      [("privileges", .array (privileges.map fun r =>
        .tuple [.uint r.tokenId, .uint r.privilegeId, .address r.user, .uint r.expires]))]⟩
  | .clonePrivilege tokenId privilegeId referrer =>
    ⟨.privilege, "clonePrivilege(uint256,uint256,address)",
      [("tokenId", .uint tokenId), ("privilegeId", .uint privilegeId),
       ("referrer", .address referrer)]⟩
  | .grantRole role account =>
    ⟨.privilege, "grantRole(bytes32,address)",
      [("role", .fixedBytes role.bytes), ("account", .address account)]⟩
  | .mint target => ⟨.privilege, "mint(address)", [("to", .address target)]⟩
  | .renounceRole role account =>
    ⟨.privilege, "renounceRole(bytes32,address)",
      [("role", .fixedBytes role.bytes), ("account", .address account)]⟩
  | .revokeRole role account =>
    ⟨.privilege, "revokeRole(bytes32,address)",
      [("role", .fixedBytes role.bytes), ("account", .address account)]⟩
  | .safeTransferFrom source target tokenId =>
    ⟨.privilege, "safeTransferFrom(address,address,uint256)",
      [("from", .address source), ("to", .address target), ("tokenId", .uint tokenId)]⟩
  | .safeTransferFromWithData source target tokenId data =>
    ⟨.privilege, "safeTransferFrom(address,address,uint256,bytes)",
      [("from", .address source), ("to", .address target), ("tokenId", .uint tokenId),
       ("data", .bytes data)]⟩
  | .setApprovalForAll operator approved =>
    ⟨.privilege, "setApprovalForAll(address,bool)",
      [("operator", .address operator), ("approved", .bool approved)]⟩
  | .setBaseUri baseUri => ⟨.privilege, "setBaseURI(string)", [("baseURI", .string baseUri)]⟩
  | .setPrivilege tokenId privilegeId user expires =>
    ⟨.privilege, "setPrivilege(uint256,uint256,address,uint256)",
      [("tokenId", .uint tokenId), ("privilegeId", .uint privilegeId), ("user", .address user),
       ("expires", .uint expires)]⟩
  | .setPrivilegeTotal total => ⟨.privilege, "setPrivilegeTotal(uint256)", [("total", .uint total)]⟩
  | .transferFrom source target tokenId =>
    ⟨.privilege, "transferFrom(address,address,uint256)",
      [("from", .address source), ("to", .address target), ("tokenId", .uint tokenId)]⟩

end Privilege

end NameRights
