/- NameRights/Proofs/Contract/Method
   digest: Every method of a client calls the function it stands for with its own arguments. -/

import NameRights.Proofs.Abi.Outputs
import NameRights.Proofs.Contract.Meaning
import NameRights.Proofs.Contract.Overload

set_option autoImplicit false
set_option relaxedAutoImplicit false

namespace NameRights

open Abi

namespace Abi

/-- Strings and byte strings of less than 2^32 bytes, and lists of less than 2^32 items. -/
def Value.Short : Value → Prop
  | .string s => (Text.utf8 s).length < 2 ^ 32
  | .bytes b => b.length < 2 ^ 32
  | .array items => items.length < 2 ^ 32
  | _ => True

end Abi

/-- The invocation calls the function a meaning names, with its arguments in their order. -/
structure Invocation.Means (i : Invocation) (m : Meaning) (f : Function) : Prop where
  contract : i.contract = m.contract
  declared : m.contract.interface.functions.find? (·.signature == m.signature) = some f
  name : f.name = i.name
  inputs : f.inputs.map Param.name = m.arguments.map Prod.fst
  arguments : i.arguments = m.arguments.map Prod.snd
  belong : Value.ListBelongs i.arguments f.kinds

private theorem PrivilegeRecord.allBelong_toValue (records : List PrivilegeRecord) :
    Value.AllBelong (records.map PrivilegeRecord.toValue)
      (.tuple [.uint 256, .uint 256, .address, .uint 256]) := by
  induction records with
  | nil => trivial
  | cons record records ih => exact ⟨⟨trivial, trivial, trivial, trivial, trivial⟩, ih⟩

private theorem PrivilegeRecord.offsetsFit_toValue (records : List PrivilegeRecord) (tail : Nat) :
    OffsetsFit tail (parts (records.map PrivilegeRecord.toValue)) := by
  induction records with
  | nil => trivial
  | cons record records ih => exact ih

private theorem PrivilegeRecord.allCompact_toValue (records : List PrivilegeRecord) :
    Value.AllCompact (records.map PrivilegeRecord.toValue) := by
  induction records with
  | nil => trivial
  | cons record records ih =>
    refine ⟨?_, ih⟩
    simp [PrivilegeRecord.toValue, Value.Compact, Value.AllCompact, parts, part, OffsetsFit]

private theorem PrivilegeRecord.toValue_injective {r s : PrivilegeRecord}
    (same : r.toValue = s.toValue) :
    r = s := by
  cases r
  cases s
  simpa [toValue] using same

namespace Registry

theorem Read.means {α : Type} (r : Read α) :
    ∃ f, r.call.invocation.Means r.meaning f ∧ r.call.output.Fits f.outputs := by
  cases r <;>
    exact ⟨_, ⟨rfl, rfl, rfl, rfl, rfl,
      by simp [Function.kinds, Value.ListBelongs, Value.Belongs, Read.call]⟩,
      .single (by constructor)⟩

theorem Write.means (w : Write) : ∃ f, w.invocation.Means w.meaning f := by
  cases w <;>
    exact ⟨_, rfl, rfl, rfl, rfl, rfl,
      by simp [Function.kinds, Value.ListBelongs, Value.Belongs, Write.invocation]⟩

private theorem Read.eq_of_meaning {α β : Type} {r : Read α} {s : Read β}
    (same : r.meaning = s.meaning) :
    (⟨α, r⟩ : Σ α, Read α) = ⟨β, s⟩ := by
  cases r <;> cases s <;> simp_all [Read.meaning, Hash.bytes_inj, Selector.bytes_inj]

private theorem Write.eq_of_meaning {w x : Write} (same : w.meaning = x.meaning) : w = x := by
  cases w <;> cases x <;> simp_all [Write.meaning, Hash.bytes_inj]

end Registry

namespace Privilege

theorem Read.means {α : Type} (r : Read α) :
    ∃ f, r.call.invocation.Means r.meaning f ∧ r.call.output.Fits f.outputs := by
  cases r
  case privilegeOf tokenId privilegeId =>
    exact ⟨_, ⟨rfl, rfl, rfl, rfl, rfl,
      by simp [Function.kinds, Value.ListBelongs, Value.Belongs, Read.call]⟩,
      .pair .address .word rfl⟩
  all_goals
    exact ⟨_, ⟨rfl, rfl, rfl, rfl, rfl,
      by simp [Function.kinds, Value.ListBelongs, Value.Belongs, Read.call]⟩,
      .single (by constructor)⟩

private theorem Write.means (w : Write) : ∃ f, w.invocation.Means w.meaning f := by
  cases w <;>
    exact ⟨_, rfl, rfl, rfl, rfl, rfl, by
      simp [Function.kinds, Value.ListBelongs, Value.Belongs, Write.invocation,
        PrivilegeRecord.allBelong_toValue]⟩

private theorem Read.eq_of_meaning {α β : Type} {r : Read α} {s : Read β}
    (same : r.meaning = s.meaning) :
    (⟨α, r⟩ : Σ α, Read α) = ⟨β, s⟩ := by
  cases r <;> cases s <;> simp_all [Read.meaning, Hash.bytes_inj, Selector.bytes_inj]

private theorem Write.eq_of_meaning {w x : Write} (same : w.meaning = x.meaning) : w = x := by
  have records {r s : List PrivilegeRecord}
      (same : r.map PrivilegeRecord.toValue = s.map PrivilegeRecord.toValue) : r = s :=
    (List.map_inj_right fun _ _ => PrivilegeRecord.toValue_injective).1 same
  cases w <;> cases x <;> simp_all [Write.meaning, Hash.bytes_inj]
  exact records same

end Privilege

/-- A method of one of the two clients, with its arguments. -/
inductive Method : Type 1 where
  | registryRead {α : Type} (r : Registry.Read α)
  | registryWrite (w : Registry.Write)
  | privilegeRead {α : Type} (r : Privilege.Read α)
  | privilegeWrite (w : Privilege.Write)

namespace Method

/-- The function that the method stands for, with its inputs. -/
def meaning : Method → Meaning
  | registryRead r => r.meaning
  | registryWrite w => w.meaning
  | privilegeRead r => r.meaning
  | privilegeWrite w => w.meaning

def invocation : Method → Invocation
  | registryRead r => r.call.invocation
  | registryWrite w => w.invocation
  | privilegeRead r => r.call.invocation
  | privilegeWrite w => w.invocation

theorem means (m : Method) : ∃ f, m.invocation.Means m.meaning f := by
  cases m with
  | registryRead r =>
    obtain ⟨f, means, -⟩ := r.means
    exact ⟨f, means⟩
  | registryWrite w => exact w.means
  | privilegeRead r =>
    obtain ⟨f, means, -⟩ := r.means
    exact ⟨f, means⟩
  | privilegeWrite w => exact w.means

private theorem registry_read_ne_write {α : Type} {r : Registry.Read α} {w : Registry.Write} :
    r.meaning ≠ w.meaning := by
  cases r <;> cases w <;> simp [Registry.Read.meaning, Registry.Write.meaning]

private theorem privilege_read_ne_write {α : Type} {r : Privilege.Read α} {w : Privilege.Write} :
    r.meaning ≠ w.meaning := by
  cases r <;> cases w <;> simp [Privilege.Read.meaning, Privilege.Write.meaning]

private theorem contract_meaning (m : Method) : m.meaning.contract =
    match m with
    | registryRead _ | registryWrite _ => .registry
    | privilegeRead _ | privilegeWrite _ => .privilege := by
  cases m with
  | registryRead r => cases r <;> rfl
  | registryWrite w => cases w <;> rfl
  | privilegeRead r => cases r <;> rfl
  | privilegeWrite w => cases w <;> rfl

theorem eq_of_meaning {m n : Method} (same : m.meaning = n.meaning) : m = n := by
  -- methods of different clients differ in the contract, those that read and write in the function
  have contracts := congrArg Meaning.contract same
  rw [contract_meaning, contract_meaning] at contracts
  cases m with
  | registryRead r =>
    cases n with
    | registryRead s =>
      cases Registry.Read.eq_of_meaning same
      rfl
    | registryWrite w => exact absurd same registry_read_ne_write
    | privilegeRead s => cases contracts
    | privilegeWrite w => cases contracts
  | registryWrite w =>
    cases n with
    | registryRead r => exact absurd same.symm registry_read_ne_write
    | registryWrite x => exact congrArg _ (Registry.Write.eq_of_meaning same)
    | privilegeRead s => cases contracts
    | privilegeWrite x => cases contracts
  | privilegeRead r =>
    cases n with
    | registryRead s => cases contracts
    | registryWrite w => cases contracts
    | privilegeRead s =>
      cases Privilege.Read.eq_of_meaning same
      rfl
    | privilegeWrite w => exact absurd same privilege_read_ne_write
  | privilegeWrite w =>
    cases n with
    | registryRead s => cases contracts
    | registryWrite x => cases contracts
    | privilegeRead r => exact absurd same.symm privilege_read_ne_write
    | privilegeWrite x => exact congrArg _ (Privilege.Write.eq_of_meaning same)

/-- The coding of short arguments has no offset or count above 32 bits. -/
theorem compact_arguments (m : Method) (short : ∀ a ∈ m.meaning.arguments, a.2.Short) :
    Value.ListCompact m.invocation.arguments := by
  cases m with
  | registryRead r =>
    cases r <;>
      simp [invocation, Registry.Read.call, Value.ListCompact, Value.AllCompact, Value.Compact,
        parts, part, OffsetsFit]
  | registryWrite w =>
    cases w <;>
      simp_all [meaning, invocation, Registry.Write.meaning, Registry.Write.invocation,
        Value.ListCompact, Value.AllCompact, Value.Compact, parts, part, OffsetsFit, headsLength,
        Part.headLength, Value.Short, Bytes.zeros]
  | privilegeRead r =>
    cases r <;>
      simp [invocation, Privilege.Read.call, Value.ListCompact, Value.AllCompact, Value.Compact,
        parts, part, OffsetsFit]
  | privilegeWrite w =>
    cases w <;>
      simp_all [meaning, invocation, Privilege.Write.meaning, Privilege.Write.invocation,
        Value.ListCompact, Value.AllCompact, Value.Compact, parts, part, OffsetsFit, headsLength,
        Part.headLength, Value.Short, Bytes.zeros, PrivilegeRecord.offsetsFit_toValue,
        PrivilegeRecord.allCompact_toValue]

end Method

end NameRights
