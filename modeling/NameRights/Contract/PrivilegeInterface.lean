/- NameRights/Contract/PrivilegeInterface
   digest: What the privilege token declares: slots lent to users for a time. -/

import NameRights.Abi.Interface

set_option autoImplicit false
set_option relaxedAutoImplicit false

namespace NameRights.Contract

open Abi

def privilegeFunctions : List Function :=
  [⟨"DEFAULT_ADMIN_ROLE", [], [.fixedBytes 32]⟩,
   ⟨"MINTER_ROLE", [], [.fixedBytes 32]⟩,
   ⟨"approve", [⟨"to", .address⟩, ⟨"tokenId", .uint 256⟩], []⟩,
   ⟨"balanceOf", [⟨"owner", .address⟩], [.uint 256]⟩,
   ⟨"batchSetPrivileges",
     [⟨"privileges", .array (.tuple [.uint 256, .uint 256, .address, .uint 256])⟩], []⟩,
   ⟨"clonePrivilege", [⟨"tokenId", .uint 256⟩, ⟨"privilegeId", .uint 256⟩,
     ⟨"referrer", .address⟩], [.bool]⟩,
   ⟨"getApproved", [⟨"tokenId", .uint 256⟩], [.address]⟩,
   ⟨"getRoleAdmin", [⟨"role", .fixedBytes 32⟩], [.fixedBytes 32]⟩,
   ⟨"grantRole", [⟨"role", .fixedBytes 32⟩, ⟨"account", .address⟩], []⟩,
   ⟨"hasPrivilege", [⟨"tokenId", .uint 256⟩, ⟨"privilegeId", .uint 256⟩, ⟨"user", .address⟩],
     [.bool]⟩,
   ⟨"hasRole", [⟨"role", .fixedBytes 32⟩, ⟨"account", .address⟩], [.bool]⟩,
   ⟨"isApprovedForAll", [⟨"owner", .address⟩, ⟨"operator", .address⟩], [.bool]⟩,
   ⟨"mint", [⟨"to", .address⟩], [.uint 256]⟩,
   ⟨"name", [], [.string]⟩,
   ⟨"ownerOf", [⟨"tokenId", .uint 256⟩], [.address]⟩,
   ⟨"privilegeExpires", [⟨"tokenId", .uint 256⟩, ⟨"privilegeId", .uint 256⟩], [.uint 256]⟩,
   ⟨"privilegeOf", [⟨"tokenId", .uint 256⟩, ⟨"privilegeId", .uint 256⟩], [.address, .uint 256]⟩,
   ⟨"privilegeTotal", [], [.uint 256]⟩,
   ⟨"renounceRole", [⟨"role", .fixedBytes 32⟩, ⟨"account", .address⟩], []⟩,
   ⟨"revokeRole", [⟨"role", .fixedBytes 32⟩, ⟨"account", .address⟩], []⟩,
   ⟨"safeTransferFrom", [⟨"from", .address⟩, ⟨"to", .address⟩, ⟨"tokenId", .uint 256⟩], []⟩,
   ⟨"safeTransferFrom", [⟨"from", .address⟩, ⟨"to", .address⟩, ⟨"tokenId", .uint 256⟩,
     ⟨"data", .bytes⟩], []⟩,
   ⟨"setApprovalForAll", [⟨"operator", .address⟩, ⟨"approved", .bool⟩], []⟩,
   ⟨"setBaseURI", [⟨"baseURI", .string⟩], []⟩,
   ⟨"setPrivilege", [⟨"tokenId", .uint 256⟩, ⟨"privilegeId", .uint 256⟩, ⟨"user", .address⟩,
     ⟨"expires", .uint 256⟩], []⟩,
   ⟨"setPrivilegeTotal", [⟨"total", .uint 256⟩], []⟩,
   ⟨"supportsInterface", [⟨"interfaceId", .fixedBytes 4⟩], [.bool]⟩,
   ⟨"symbol", [], [.string]⟩,
   ⟨"tokenURI", [⟨"tokenId", .uint 256⟩], [.string]⟩,
   ⟨"totalSupply", [], [.uint 256]⟩,
   ⟨"transferFrom", [⟨"from", .address⟩, ⟨"to", .address⟩, ⟨"tokenId", .uint 256⟩], []⟩]

def privilegeEvents : List Event :=
  [⟨"Approval", [⟨"owner", .address, true⟩, ⟨"approved", .address, true⟩,
     ⟨"tokenId", .uint 256, true⟩], false⟩,
   ⟨"ApprovalForAll", [⟨"owner", .address, true⟩, ⟨"operator", .address, true⟩,
     ⟨"approved", .bool, false⟩], false⟩,
   ⟨"PrivilegeAssigned", [⟨"tokenId", .uint 256, true⟩, ⟨"privilegeId", .uint 256, true⟩,
     ⟨"user", .address, true⟩, ⟨"expires", .uint 256, false⟩], false⟩,
   ⟨"PrivilegeCloned", [⟨"tokenId", .uint 256, true⟩, ⟨"privilegeId", .uint 256, true⟩,
     ⟨"from", .address, true⟩, ⟨"to", .address, false⟩], false⟩,
   ⟨"PrivilegeTotalChanged", [⟨"newTotal", .uint 256, false⟩, ⟨"oldTotal", .uint 256, false⟩],
     false⟩,
   ⟨"PrivilegeTransfer", [⟨"tokenId", .uint 256, true⟩, ⟨"privilegeId", .uint 256, true⟩,
     ⟨"from", .address, false⟩, ⟨"to", .address, false⟩], false⟩,
   ⟨"RoleAdminChanged", [⟨"role", .fixedBytes 32, true⟩,
     ⟨"previousAdminRole", .fixedBytes 32, true⟩, ⟨"newAdminRole", .fixedBytes 32, true⟩], false⟩,
   ⟨"RoleGranted", [⟨"role", .fixedBytes 32, true⟩, ⟨"account", .address, true⟩,
     ⟨"sender", .address, true⟩], false⟩,
   ⟨"RoleRevoked", [⟨"role", .fixedBytes 32, true⟩, ⟨"account", .address, true⟩,
     ⟨"sender", .address, true⟩], false⟩,
   ⟨"Transfer", [⟨"from", .address, true⟩, ⟨"to", .address, true⟩, ⟨"tokenId", .uint 256, true⟩],
     false⟩]

def privilegeInterface : Interface := ⟨privilegeFunctions, privilegeEvents⟩

end NameRights.Contract
