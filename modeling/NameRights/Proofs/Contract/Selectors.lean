/- NameRights/Proofs/Contract/Selectors
   digest: Every function that a contract declares is in the contract's table, with a selector
   that is the front of the hash of its signature. -/

import NameRights.Contract.Basic
import NameRights.Proofs.Keccak
import NameRights.Proofs.Word

set_option autoImplicit false
set_option relaxedAutoImplicit false

namespace NameRights.Contract

/-- The entries of both tables, those that both have counted once. -/
private def entries : List SelectorEntry :=
  registrySelectors ++ privilegeSelectors.filter (· ∉ registrySelectors)

private theorem mem_entries {c : Contract} {entry : SelectorEntry} (listed : entry ∈ c.selectors) :
    entry ∈ entries := by
  by_cases shared : entry ∈ registrySelectors
  · exact List.mem_append_left _ shared
  · cases c with
    | registry => exact absurd listed shared
    | privilege => exact List.mem_append_right _ (List.mem_filter.2 ⟨listed, by simpa using shared⟩)

private theorem front_entries : ∀ entry ∈ entries,
    (Keccak.hash (Text.utf8 entry.signature)).take 4 = entry.selector.bytes := by
  simp only [Keccak.hash_eq]
  decide +kernel

/-- The listed selectors are the fronts of the hashes of the signatures they stand by. -/
theorem take_hash_signature {c : Contract} {entry : SelectorEntry} (listed : entry ∈ c.selectors) :
    (Keccak.hash (Text.utf8 entry.signature)).take 4 = entry.selector.bytes :=
  front_entries entry (mem_entries listed)

theorem exists_entry {c : Contract} {f : Abi.Function} (declared : f ∈ c.interface.functions) :
    ∃ entry ∈ c.selectors, entry.signature = f.signature := by
  have all : ∀ f ∈ c.interface.functions, ∃ entry ∈ c.selectors, entry.signature = f.signature := by
    cases c <;> decide +kernel
  exact all f declared

/-- What a call of a declared function starts with is what the table lists. -/
theorem selector_eq {c : Contract} {entry : SelectorEntry} (listed : entry ∈ c.selectors)
    {f : Abi.Function} (same : entry.signature = f.signature) : f.selector = entry.selector := by
  rw [Abi.Function.selector, Selector.ofSignature, ← same, take_hash_signature listed,
    Selector.ofBytes_bytes]

end NameRights.Contract
