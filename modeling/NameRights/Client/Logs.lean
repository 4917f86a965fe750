/- NameRights/Client/Logs
   digest: The logs that the two contracts can be searched and watched for, by the names of their
   indexed inputs. -/

import NameRights.Client

set_option autoImplicit false
set_option relaxedAutoImplicit false

namespace NameRights

/-- The logs of the registry to look for: those of an event whose indexed inputs are among the
values that are given for them. No values stand for all. -/
inductive Registry.Logs : EventKind → Type where
  | approval (owner approved : List Address) (tokenId : List Word) : Logs .approval
  | approvalForAll (owner operator : List Address) : Logs .approvalForAll
  | baseUriChanged : Logs .baseUriChanged
  | nameRegistered (id : List Word) (owner : List Address) : Logs .nameRegistered
  | nameRenewed (id : List Word) : Logs .nameRenewed
  | paused : Logs .paused
  | roleAdminChanged (role previousAdminRole newAdminRole : List Hash) : Logs .roleAdminChanged
  | roleGranted (role : List Hash) (account sender : List Address) : Logs .roleGranted
  | roleRevoked (role : List Hash) (account sender : List Address) : Logs .roleRevoked
  | transfer (source target : List Address) (tokenId : List Word) : Logs .transfer
  | unpaused : Logs .unpaused

/-- The logs of the privilege contract to look for. -/
inductive Privilege.Logs : EventKind → Type where
  | approval (owner approved : List Address) (tokenId : List Word) : Logs .approval
  | approvalForAll (owner operator : List Address) : Logs .approvalForAll
  | privilegeAssigned (tokenId privilegeId : List Word) (user : List Address) :
      Logs .privilegeAssigned
  | privilegeCloned (tokenId privilegeId : List Word) (source : List Address) :
      Logs .privilegeCloned
  | privilegeTotalChanged : Logs .privilegeTotalChanged
  | privilegeTransfer (tokenId privilegeId : List Word) : Logs .privilegeTransfer
  | roleAdminChanged (role previousAdminRole newAdminRole : List Hash) : Logs .roleAdminChanged
  | roleGranted (role : List Hash) (account sender : List Address) : Logs .roleGranted
  | roleRevoked (role : List Hash) (account sender : List Address) : Logs .roleRevoked
  | transfer (source target : List Address) (tokenId : List Word) : Logs .transfer

namespace Registry

def Logs.choices : {kind : EventKind} → Logs kind → EventKind.Choices kind.slots
  | _, .approval owner approved tokenId => (owner, approved, tokenId, ())
  | _, .approvalForAll owner operator => (owner, operator, ())
  | _, .baseUriChanged => ()
  | _, .nameRegistered id owner => (id, owner, ())
  | _, .nameRenewed id => (id, ())
  | _, .paused => ()
  | _, .roleAdminChanged role previousAdminRole newAdminRole =>
    (role, previousAdminRole, newAdminRole, ())
  | _, .roleGranted role account sender => (role, account, sender, ())
  | _, .roleRevoked role account sender => (role, account, sender, ())
  | _, .transfer source target tokenId => (source, target, tokenId, ())
  | _, .unpaused => ()

/-- The logs that the registry at an address left in a range of blocks. -/
def filter {kind : EventKind} (address : Address) (logs : Logs kind) (range : BlockRange) :
    Dialogue (Abi.Event × List Log) :=
  Client.filterEvents address .registry kind logs.choices range

/-- Opens a feed of the logs that the registry at an address leaves. -/
def watch {kind : EventKind} (address : Address) (logs : Logs kind) (options : WatchOptions) :
    Dialogue (Abi.Event × String) :=
  Client.watchEvents address .registry kind logs.choices options

end Registry

namespace Privilege

def Logs.choices : {kind : EventKind} → Logs kind → EventKind.Choices kind.slots
  | _, .approval owner approved tokenId => (owner, approved, tokenId, ())
  | _, .approvalForAll owner operator => (owner, operator, ())
  | _, .privilegeAssigned tokenId privilegeId user => (tokenId, privilegeId, user, ())
  | _, .privilegeCloned tokenId privilegeId source => (tokenId, privilegeId, source, ())
  | _, .privilegeTotalChanged => ()
  | _, .privilegeTransfer tokenId privilegeId => (tokenId, privilegeId, ())
  | _, .roleAdminChanged role previousAdminRole newAdminRole =>
    (role, previousAdminRole, newAdminRole, ())
  | _, .roleGranted role account sender => (role, account, sender, ())
  | _, .roleRevoked role account sender => (role, account, sender, ())
  | _, .transfer source target tokenId => (source, target, tokenId, ())

/-- The logs that the privilege contract at an address left in a range of blocks. -/
def filter {kind : EventKind} (address : Address) (logs : Logs kind) (range : BlockRange) :
    Dialogue (Abi.Event × List Log) :=
  Client.filterEvents address .privilege kind logs.choices range

/-- Opens a feed of the logs that the privilege contract at an address leaves. -/
def watch {kind : EventKind} (address : Address) (logs : Logs kind) (options : WatchOptions) :
    Dialogue (Abi.Event × String) :=
  Client.watchEvents address .privilege kind logs.choices options

end Privilege

end NameRights
