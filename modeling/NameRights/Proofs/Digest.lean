/- NameRights/Proofs/Digest
   digest: The sponge keeps its 25 lanes, and every digest of it has 32 bytes. -/

import NameRights.Keccak

set_option autoImplicit false
set_option relaxedAutoImplicit false

namespace NameRights.Keccak

@[simp] theorem size_build (f : Nat → Nat → UInt64) : (build f).size = 25 := by
  simp [build]

@[simp] theorem size_round (s : State) (constant : UInt64) : (round s constant).size = 25 := by
  simp [round, mixRows]

private theorem size_foldl_round (constants : List UInt64) (s : State) (size : s.size = 25) :
    (constants.foldl round s).size = 25 := by
  induction constants generalizing s with
  | nil => exact size
  | cons constant constants ih =>
    rw [List.foldl_cons]
    exact ih _ (size_round s constant)

private theorem size_permute {s : State} (size : s.size = 25) : (permute s).size = 25 :=
  size_foldl_round roundConstants s size

@[simp] theorem size_absorb (s : State) (block : Bytes) : (absorb s block).size = 25 := by
  rw [absorb]
  exact size_permute (size_build _)

private theorem size_foldl_absorb (blocks : List Bytes) (s : State) (size : s.size = 25) :
    (blocks.foldl absorb s).size = 25 := by
  induction blocks generalizing s with
  | nil => exact size
  | cons block blocks ih =>
    rw [List.foldl_cons]
    exact ih _ (size_absorb s block)

private theorem length_flatMap_bytesOfLane (lanes : List UInt64) :
    (lanes.flatMap bytesOfLane).length = 8 * lanes.length := by
  induction lanes with
  | nil => rfl
  | cons lane lanes ih =>
    rw [List.flatMap_cons, List.length_append, ih, List.length_cons]
    simp only [bytesOfLane, List.length_map, List.length_range]
    omega

theorem length_hash (message : Bytes) : (hash message).length = 32 := by
  have size := size_foldl_absorb (Bytes.chunks rate (pad message)) (build fun _ _ => 0)
    (size_build _)
  rw [hash, List.length_take, length_flatMap_bytesOfLane, Array.length_toList, size]
  rfl

end NameRights.Keccak
