/- NameRights/Contract/RegistryInterface
   digest: What the name registry declares: a non-fungible token per name. -/

import NameRights.Abi.Interface

set_option autoImplicit false
set_option relaxedAutoImplicit false

namespace NameRights.Contract

open Abi

def registryFunctions : List Function :=
  [⟨"DEFAULT_ADMIN_ROLE", [], [.fixedBytes 32]⟩,
   ⟨"GRACE_PERIOD", [], [.uint 256]⟩,
   ⟨"REGISTRAR_ROLE", [], [.fixedBytes 32]⟩,
   ⟨"approve", [⟨"to", .address⟩, ⟨"tokenId", .uint 256⟩], []⟩,
   ⟨"available", [⟨"id", .uint 256⟩], [.bool]⟩,
   ⟨"balanceOf", [⟨"owner", .address⟩], [.uint 256]⟩,
   ⟨"baseNode", [], [.fixedBytes 32]⟩,
   ⟨"getApproved", [⟨"tokenId", .uint 256⟩], [.address]⟩,
   ⟨"getRoleAdmin", [⟨"role", .fixedBytes 32⟩], [.fixedBytes 32]⟩,
   ⟨"grantRole", [⟨"role", .fixedBytes 32⟩, ⟨"account", .address⟩], []⟩,
   ⟨"hasRole", [⟨"role", .fixedBytes 32⟩, ⟨"account", .address⟩], [.bool]⟩,
   ⟨"isApprovedForAll", [⟨"owner", .address⟩, ⟨"operator", .address⟩], [.bool]⟩,
   ⟨"name", [], [.string]⟩,
   ⟨"nameExpires", [⟨"id", .uint 256⟩], [.uint 256]⟩,
   ⟨"nameOf", [⟨"id", .uint 256⟩], [.string]⟩,
   ⟨"ownerOf", [⟨"tokenId", .uint 256⟩], [.address]⟩,
   ⟨"pause", [], []⟩,
   ⟨"paused", [], [.bool]⟩,
   ⟨"reclaim", [⟨"id", .uint 256⟩, ⟨"owner", .address⟩], []⟩,
   ⟨"register", [⟨"name", .string⟩, ⟨"owner", .address⟩, ⟨"duration", .uint 256⟩], [.uint 256]⟩,
   ⟨"renew", [⟨"id", .uint 256⟩, ⟨"duration", .uint 256⟩], [.uint 256]⟩,
   ⟨"renounceRole", [⟨"role", .fixedBytes 32⟩, ⟨"account", .address⟩], []⟩,
   ⟨"revokeRole", [⟨"role", .fixedBytes 32⟩, ⟨"account", .address⟩], []⟩,
   ⟨"safeTransferFrom", [⟨"from", .address⟩, ⟨"to", .address⟩, ⟨"tokenId", .uint 256⟩], []⟩,
   ⟨"safeTransferFrom", [⟨"from", .address⟩, ⟨"to", .address⟩, ⟨"tokenId", .uint 256⟩,
     ⟨"data", .bytes⟩], []⟩,
   ⟨"setApprovalForAll", [⟨"operator", .address⟩, ⟨"approved", .bool⟩], []⟩,
   ⟨"setBaseURI", [⟨"baseURI", .string⟩], []⟩,
   ⟨"supportsInterface", [⟨"interfaceId", .fixedBytes 4⟩], [.bool]⟩,
   ⟨"symbol", [], [.string]⟩,
   ⟨"tokenURI", [⟨"tokenId", .uint 256⟩], [.string]⟩,
   ⟨"transferFrom", [⟨"from", .address⟩, ⟨"to", .address⟩, ⟨"tokenId", .uint 256⟩], []⟩,
   ⟨"unpause", [], []⟩]

def registryEvents : List Event :=
  [⟨"Approval", [⟨"owner", .address, true⟩, ⟨"approved", .address, true⟩,
     ⟨"tokenId", .uint 256, true⟩], false⟩,
   ⟨"ApprovalForAll", [⟨"owner", .address, true⟩, ⟨"operator", .address, true⟩,
     ⟨"approved", .bool, false⟩], false⟩,
   ⟨"BaseURIChanged", [⟨"baseURI", .string, false⟩], false⟩,
   ⟨"NameRegistered", [⟨"id", .uint 256, true⟩, ⟨"name", .string, false⟩,
     ⟨"owner", .address, true⟩, ⟨"expires", .uint 256, false⟩], false⟩,
   ⟨"NameRenewed", [⟨"id", .uint 256, true⟩, ⟨"expires", .uint 256, false⟩], false⟩,
   ⟨"Paused", [⟨"account", .address, false⟩], false⟩,
   ⟨"RoleAdminChanged", [⟨"role", .fixedBytes 32, true⟩,
     ⟨"previousAdminRole", .fixedBytes 32, true⟩, ⟨"newAdminRole", .fixedBytes 32, true⟩], false⟩,
   ⟨"RoleGranted", [⟨"role", .fixedBytes 32, true⟩, ⟨"account", .address, true⟩,
     ⟨"sender", .address, true⟩], false⟩,
   ⟨"RoleRevoked", [⟨"role", .fixedBytes 32, true⟩, ⟨"account", .address, true⟩,
     ⟨"sender", .address, true⟩], false⟩,
   ⟨"Transfer", [⟨"from", .address, true⟩, ⟨"to", .address, true⟩, ⟨"tokenId", .uint 256, true⟩],
     false⟩,
   ⟨"Unpaused", [⟨"account", .address, false⟩], false⟩]

def registryInterface : Interface := ⟨registryFunctions, registryEvents⟩

end NameRights.Contract
