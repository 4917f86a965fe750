/- NameRights/Bytes
   digest: Byte strings, read and written as big-endian numbers. -/

set_option autoImplicit false
set_option relaxedAutoImplicit false

namespace NameRights

abbrev Bytes := List UInt8

namespace Bytes

/-- The number whose base-256 digits, most significant first, are the given bytes. -/
def toNat (bytes : Bytes) : Nat :=
  bytes.foldl (fun n b => n * 256 + b.toNat) 0

/-- The `width` low base-256 digits of a number, most significant first. -/
def ofNat : Nat → Nat → Bytes
  | 0, _ => []
  | width + 1, n => ofNat width (n / 256) ++ [UInt8.ofNat n]

def zeros (count : Nat) : Bytes := List.replicate count 0

/-- The shortest big-endian digits of a number: none for zero, no leading zero otherwise. -/
def ofNatMinimal (n : Nat) : Bytes :=
  (ofNat 32 n).dropWhile (· == 0)

def padRight (bytes : Bytes) : Bytes :=
  bytes ++ zeros ((32 - bytes.length % 32) % 32)

def slice? (bytes : Bytes) (start count : Nat) : Option Bytes :=
  if start + count ≤ bytes.length then some ((bytes.drop start).take count) else none

/-- The byte string cut into pieces of `size` bytes, the last one possibly shorter. -/
def chunks (size : Nat) (bytes : Bytes) : List Bytes :=
  if 0 < size ∧ 0 < bytes.length then bytes.take size :: chunks size (bytes.drop size) else []
termination_by bytes.length
decreasing_by rw [List.length_drop]; omega

@[simp] theorem length_ofNat (width n : Nat) : (ofNat width n).length = width := by
  induction width generalizing n with
  | zero => rfl
  | succ width ih => simp [ofNat, ih]

@[simp] theorem toNat_append_singleton (bytes : Bytes) (b : UInt8) :
    toNat (bytes ++ [b]) = toNat bytes * 256 + b.toNat := by
  simp [toNat, List.foldl_append]

end Bytes

end NameRights
