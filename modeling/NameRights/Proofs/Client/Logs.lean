/- NameRights/Proofs/Client/Logs
   digest: Every list that a client gives to look for logs stands for the indexed input of its
   name. -/

import NameRights.Client.Logs
import NameRights.Proofs.Event.Declared

set_option autoImplicit false
set_option relaxedAutoImplicit false

namespace NameRights

open Abi EventKind

variable {kind : EventKind}

namespace Registry

/-- What the registry's logs are looked for by: indexed inputs and the values given for them. -/
def Logs.wanted : Logs kind → List (String × List Value)
  | .approval owner approved tokenId =>
    [("owner", owner.map .address), ("approved", approved.map .address),
     ("tokenId", tokenId.map .uint)]
  | .approvalForAll owner operator =>
    [("owner", owner.map .address), ("operator", operator.map .address)]
  | .baseUriChanged | .paused | .unpaused => []
  | .nameRegistered id owner => [("id", id.map .uint), ("owner", owner.map .address)]
  | .nameRenewed id => [("id", id.map .uint)]
  | .roleAdminChanged role previousAdminRole newAdminRole =>
    [("role", role.map (.fixedBytes ·.bytes)),
     ("previousAdminRole", previousAdminRole.map (.fixedBytes ·.bytes)),
     ("newAdminRole", newAdminRole.map (.fixedBytes ·.bytes))]
  | .roleGranted role account sender | .roleRevoked role account sender =>
    [("role", role.map (.fixedBytes ·.bytes)), ("account", account.map .address),
     ("sender", sender.map .address)]
  | .transfer source target tokenId =>
    [("from", source.map .address), ("to", target.map .address), ("tokenId", tokenId.map .uint)]

/-- The registry declares the event, the lists are named for its indexed inputs in their order, and
each place of the filter accepts the values of its list. -/
theorem Logs.exact (logs : Logs kind) :
    Contract.registry.event kind.name = .ok kind.declaration ∧
    logs.wanted.map Prod.fst = kind.declaration.indexed.map Field.name ∧
    accepted kind.slots logs.choices = logs.wanted.map fun w => .ofList w.2 := by
  cases logs <;> exact ⟨rfl, rfl, rfl⟩

end Registry

namespace Privilege

def Logs.wanted : Logs kind → List (String × List Value)
  | .approval owner approved tokenId =>
    [("owner", owner.map .address), ("approved", approved.map .address),
     ("tokenId", tokenId.map .uint)]
  | .approvalForAll owner operator =>
    [("owner", owner.map .address), ("operator", operator.map .address)]
  | .privilegeAssigned tokenId privilegeId user =>
    [("tokenId", tokenId.map .uint), ("privilegeId", privilegeId.map .uint),
     ("user", user.map .address)]
  | .privilegeCloned tokenId privilegeId source =>
    [("tokenId", tokenId.map .uint), ("privilegeId", privilegeId.map .uint),
     ("from", source.map .address)]
  | .privilegeTotalChanged => []
  | .privilegeTransfer tokenId privilegeId =>
    [("tokenId", tokenId.map .uint), ("privilegeId", privilegeId.map .uint)]
  | .roleAdminChanged role previousAdminRole newAdminRole =>
    [("role", role.map (.fixedBytes ·.bytes)),
     ("previousAdminRole", previousAdminRole.map (.fixedBytes ·.bytes)),
     ("newAdminRole", newAdminRole.map (.fixedBytes ·.bytes))]
  | .roleGranted role account sender | .roleRevoked role account sender =>
    [("role", role.map (.fixedBytes ·.bytes)), ("account", account.map .address),
     ("sender", sender.map .address)]
  | .transfer source target tokenId =>
    [("from", source.map .address), ("to", target.map .address), ("tokenId", tokenId.map .uint)]

theorem Logs.exact (logs : Logs kind) :
    Contract.privilege.event kind.name = .ok kind.declaration ∧
    logs.wanted.map Prod.fst = kind.declaration.indexed.map Field.name ∧
    accepted kind.slots logs.choices = logs.wanted.map fun w => .ofList w.2 := by
  cases logs <;> exact ⟨rfl, rfl, rfl⟩

end Privilege

end NameRights
