/- NameRights/Contract/Selectors
   digest: The functions of the two contracts with their signatures and selectors. -/

import NameRights.Word

set_option autoImplicit false
set_option relaxedAutoImplicit false

namespace NameRights.Contract

/-- A function's name, its canonical signature and its selector. -/
structure SelectorEntry where
  name : String
  signature : String
  selector : Selector
  deriving Repr, DecidableEq

def registrySelectors : List SelectorEntry :=
  [⟨"DEFAULT_ADMIN_ROLE", "DEFAULT_ADMIN_ROLE()", ⟨0xa217fddf⟩⟩,
   ⟨"GRACE_PERIOD", "GRACE_PERIOD()", ⟨0xc1a287e2⟩⟩,
   ⟨"REGISTRAR_ROLE", "REGISTRAR_ROLE()", ⟨0xf68e9553⟩⟩,
   ⟨"approve", "approve(address,uint256)", ⟨0x095ea7b3⟩⟩,
   ⟨"available", "available(uint256)", ⟨0x96e494e8⟩⟩,
   ⟨"balanceOf", "balanceOf(address)", ⟨0x70a08231⟩⟩,
   ⟨"baseNode", "baseNode()", ⟨0xddf7fcb0⟩⟩,
   ⟨"getApproved", "getApproved(uint256)", ⟨0x081812fc⟩⟩,
   ⟨"getRoleAdmin", "getRoleAdmin(bytes32)", ⟨0x248a9ca3⟩⟩,
   ⟨"grantRole", "grantRole(bytes32,address)", ⟨0x2f2ff15d⟩⟩,
   ⟨"hasRole", "hasRole(bytes32,address)", ⟨0x91d14854⟩⟩,
   ⟨"isApprovedForAll", "isApprovedForAll(address,address)", ⟨0xe985e9c5⟩⟩,
   ⟨"name", "name()", ⟨0x06fdde03⟩⟩,
   ⟨"nameExpires", "nameExpires(uint256)", ⟨0xd6e4fa86⟩⟩,
   ⟨"nameOf", "nameOf(uint256)", ⟨0x051a2664⟩⟩,
   ⟨"ownerOf", "ownerOf(uint256)", ⟨0x6352211e⟩⟩,
   ⟨"pause", "pause()", ⟨0x8456cb59⟩⟩,
   ⟨"paused", "paused()", ⟨0x5c975abb⟩⟩,
   ⟨"reclaim", "reclaim(uint256,address)", ⟨0x28ed4f6c⟩⟩,
   ⟨"register", "register(string,address,uint256)", ⟨0xd393c871⟩⟩,
   ⟨"renew", "renew(uint256,uint256)", ⟨0xc475abff⟩⟩,
   ⟨"renounceRole", "renounceRole(bytes32,address)", ⟨0x36568abe⟩⟩,
   ⟨"revokeRole", "revokeRole(bytes32,address)", ⟨0xd547741f⟩⟩,
   ⟨"safeTransferFrom", "safeTransferFrom(address,address,uint256)", ⟨0x42842e0e⟩⟩,
   ⟨"safeTransferFrom", "safeTransferFrom(address,address,uint256,bytes)", ⟨0xb88d4fde⟩⟩,
   ⟨"setApprovalForAll", "setApprovalForAll(address,bool)", ⟨0xa22cb465⟩⟩,
   ⟨"setBaseURI", "setBaseURI(string)", ⟨0x55f804b3⟩⟩,
   ⟨"supportsInterface", "supportsInterface(bytes4)", ⟨0x01ffc9a7⟩⟩,
   ⟨"symbol", "symbol()", ⟨0x95d89b41⟩⟩,
   ⟨"tokenURI", "tokenURI(uint256)", ⟨0xc87b56dd⟩⟩,
   ⟨"transferFrom", "transferFrom(address,address,uint256)", ⟨0x23b872dd⟩⟩,
   ⟨"unpause", "unpause()", ⟨0x3f4ba83a⟩⟩]

def privilegeSelectors : List SelectorEntry :=
  [⟨"DEFAULT_ADMIN_ROLE", "DEFAULT_ADMIN_ROLE()", ⟨0xa217fddf⟩⟩,
   ⟨"MINTER_ROLE", "MINTER_ROLE()", ⟨0xd5391393⟩⟩,
   ⟨"approve", "approve(address,uint256)", ⟨0x095ea7b3⟩⟩,
   ⟨"balanceOf", "balanceOf(address)", ⟨0x70a08231⟩⟩,
   ⟨"batchSetPrivileges", "batchSetPrivileges((uint256,uint256,address,uint256)[])", ⟨0xea49ca63⟩⟩,
   ⟨"clonePrivilege", "clonePrivilege(uint256,uint256,address)", ⟨0xf228d6a4⟩⟩,
   ⟨"getApproved", "getApproved(uint256)", ⟨0x081812fc⟩⟩,
   ⟨"getRoleAdmin", "getRoleAdmin(bytes32)", ⟨0x248a9ca3⟩⟩,
   ⟨"grantRole", "grantRole(bytes32,address)", ⟨0x2f2ff15d⟩⟩,
   ⟨"hasPrivilege", "hasPrivilege(uint256,uint256,address)", ⟨0x05d80b00⟩⟩,
   ⟨"hasRole", "hasRole(bytes32,address)", ⟨0x91d14854⟩⟩,
   ⟨"isApprovedForAll", "isApprovedForAll(address,address)", ⟨0xe985e9c5⟩⟩,
   ⟨"mint", "mint(address)", ⟨0x6a627842⟩⟩,
   ⟨"name", "name()", ⟨0x06fdde03⟩⟩,
   ⟨"ownerOf", "ownerOf(uint256)", ⟨0x6352211e⟩⟩,
   ⟨"privilegeExpires", "privilegeExpires(uint256,uint256)", ⟨0x207d8cd1⟩⟩,
   ⟨"privilegeOf", "privilegeOf(uint256,uint256)", ⟨0x8413c1dd⟩⟩,
   ⟨"privilegeTotal", "privilegeTotal()", ⟨0xa1a37f45⟩⟩,
   ⟨"renounceRole", "renounceRole(bytes32,address)", ⟨0x36568abe⟩⟩,
   ⟨"revokeRole", "revokeRole(bytes32,address)", ⟨0xd547741f⟩⟩,
   ⟨"safeTransferFrom", "safeTransferFrom(address,address,uint256)", ⟨0x42842e0e⟩⟩,
   ⟨"safeTransferFrom", "safeTransferFrom(address,address,uint256,bytes)", ⟨0xb88d4fde⟩⟩,
   ⟨"setApprovalForAll", "setApprovalForAll(address,bool)", ⟨0xa22cb465⟩⟩,
   ⟨"setBaseURI", "setBaseURI(string)", ⟨0x55f804b3⟩⟩,
   ⟨"setPrivilege", "setPrivilege(uint256,uint256,address,uint256)", ⟨0xeca3221a⟩⟩,
   ⟨"setPrivilegeTotal", "setPrivilegeTotal(uint256)", ⟨0x93610f8e⟩⟩,
   ⟨"supportsInterface", "supportsInterface(bytes4)", ⟨0x01ffc9a7⟩⟩,
   ⟨"symbol", "symbol()", ⟨0x95d89b41⟩⟩,
   ⟨"tokenURI", "tokenURI(uint256)", ⟨0xc87b56dd⟩⟩,
   ⟨"totalSupply", "totalSupply()", ⟨0x18160ddd⟩⟩,
   ⟨"transferFrom", "transferFrom(address,address,uint256)", ⟨0x23b872dd⟩⟩]

end NameRights.Contract
