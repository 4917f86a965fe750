/- NameRights/Event/Record
   digest: Typed records of the events of the two contracts. -/

import NameRights.Log

set_option autoImplicit false
set_option relaxedAutoImplicit false

namespace NameRights

/-- A token moves from `source` to `target`; a new one comes from the zero address. -/
structure Transfer where
  source : Address
  target : Address
  tokenId : Word
  raw : Log
  deriving Repr

structure Approval where
  owner : Address
  approved : Address
  tokenId : Word
  raw : Log
  deriving Repr

structure ApprovalForAll where
  owner : Address
  operator : Address
  approved : Bool
  raw : Log
  deriving Repr

structure RoleAdminChanged where
  role : Hash
  previousAdminRole : Hash
  newAdminRole : Hash
  raw : Log
  deriving Repr

structure RoleGranted where
  role : Hash
  account : Address
  sender : Address
  raw : Log
  deriving Repr

structure RoleRevoked where
  role : Hash
  account : Address
  sender : Address
  raw : Log
  deriving Repr

/-- The address of token metadata changes. -/
structure BaseUriChanged where
  baseUri : String
  raw : Log
  deriving Repr

/-- A name is registered, for the first time or after it ran out. -/
structure NameRegistered where
  id : Word
  name : String
  owner : Address
  expires : Word
  raw : Log
  deriving Repr

structure NameRenewed where
  id : Word
  expires : Word
  raw : Log
  deriving Repr

structure Paused where
  account : Address
  raw : Log
  deriving Repr

structure Unpaused where
  account : Address
  raw : Log
  deriving Repr

/-- A privilege slot of a token is lent to a user until a time. -/
structure PrivilegeAssigned where
  tokenId : Word
  privilegeId : Word
  user : Address
  expires : Word
  raw : Log
  deriving Repr

/-- A privilege is copied from one user to another. -/
structure PrivilegeCloned where
  tokenId : Word
  privilegeId : Word
  source : Address
  target : Address
  raw : Log
  deriving Repr

/-- The number of privilege slots of every token changes. -/
structure PrivilegeTotalChanged where
  newTotal : Word
  oldTotal : Word
  raw : Log
  deriving Repr

/-- A privilege moves between users together with its token. -/
structure PrivilegeTransfer where
  tokenId : Word
  privilegeId : Word
  source : Address
  target : Address
  raw : Log
  deriving Repr

end NameRights
