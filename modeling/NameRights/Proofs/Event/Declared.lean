/- NameRights/Proofs/Event/Declared
   digest: Which contract declares which event, with which inputs, under which first topic. -/

import NameRights.Contract.Basic
import NameRights.Proofs.Keccak
import NameRights.Proofs.Result

set_option autoImplicit false
set_option relaxedAutoImplicit false

namespace NameRights

namespace EventKind

open Abi

/-- The inputs every declaration of the event has. -/
def inputs : EventKind → List Field
  | transfer =>
    [⟨"from", .address, true⟩, ⟨"to", .address, true⟩, ⟨"tokenId", .uint 256, true⟩]
  | approval =>
    [⟨"owner", .address, true⟩, ⟨"approved", .address, true⟩, ⟨"tokenId", .uint 256, true⟩]
  | approvalForAll =>
    [⟨"owner", .address, true⟩, ⟨"operator", .address, true⟩, ⟨"approved", .bool, false⟩]
  | roleAdminChanged =>
    [⟨"role", .fixedBytes 32, true⟩, ⟨"previousAdminRole", .fixedBytes 32, true⟩,
     ⟨"newAdminRole", .fixedBytes 32, true⟩]
  | roleGranted | roleRevoked =>
    [⟨"role", .fixedBytes 32, true⟩, ⟨"account", .address, true⟩, ⟨"sender", .address, true⟩]
  | baseUriChanged => [⟨"baseURI", .string, false⟩]
  | nameRegistered =>
    [⟨"id", .uint 256, true⟩, ⟨"name", .string, false⟩, ⟨"owner", .address, true⟩,
     ⟨"expires", .uint 256, false⟩]
  | nameRenewed => [⟨"id", .uint 256, true⟩, ⟨"expires", .uint 256, false⟩]
  | paused | unpaused => [⟨"account", .address, false⟩]
  | privilegeAssigned =>
    [⟨"tokenId", .uint 256, true⟩, ⟨"privilegeId", .uint 256, true⟩, ⟨"user", .address, true⟩,
     ⟨"expires", .uint 256, false⟩]
  | privilegeCloned =>
    [⟨"tokenId", .uint 256, true⟩, ⟨"privilegeId", .uint 256, true⟩, ⟨"from", .address, true⟩,
     ⟨"to", .address, false⟩]
  | privilegeTotalChanged => [⟨"newTotal", .uint 256, false⟩, ⟨"oldTotal", .uint 256, false⟩]
  | privilegeTransfer =>
    [⟨"tokenId", .uint 256, true⟩, ⟨"privilegeId", .uint 256, true⟩, ⟨"from", .address, false⟩,
     ⟨"to", .address, false⟩]

/-- The event's declaration. -/
def declaration (kind : EventKind) : Event := ⟨kind.name, kind.inputs, false⟩

private def isDeclaredBy : EventKind → Contract → Bool
  | transfer, _ | approval, _ | approvalForAll, _ => true
  | roleAdminChanged, _ | roleGranted, _ | roleRevoked, _ => true
  | baseUriChanged, c | nameRegistered, c | nameRenewed, c => c = .registry
  | paused, c | unpaused, c => c = .registry
  | privilegeAssigned, c | privilegeCloned, c => c = .privilege
  | privilegeTotalChanged, c | privilegeTransfer, c => c = .privilege

private theorem signature_declaration (kind : EventKind) :
    kind.declaration.signature = kind.signature := by
  cases kind <;> decide +kernel

private theorem topic_signature (kind : EventKind) : Hash.topic kind.signature = kind.topic := by
  rw [Hash.topic, Hash.ofText, Keccak.hash_eq]
  cases kind <;> decide +kernel

theorem topic_declaration (kind : EventKind) : kind.declaration.topic = kind.topic := by
  rw [Event.topic, signature_declaration, topic_signature]

end EventKind

private theorem Contract.event_name (c : Contract) (kind : EventKind) : c.event kind.name =
    if kind.isDeclaredBy c then .ok kind.declaration
    else .error (.abi (.invalidName kind.name)) := by
  cases c <;> cases kind <;> rfl

theorem Contract.eq_declaration {c : Contract} {kind : EventKind} {e : Abi.Event}
    (declared : c.event kind.name = .ok e) : e = kind.declaration := by
  rw [event_name] at declared
  split at declared
  · exact (Except.ok.inj declared).symm
  · cases declared

end NameRights
