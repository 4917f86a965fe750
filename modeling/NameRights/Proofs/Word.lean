/- NameRights/Proofs/Word
   digest: Words, addresses, hashes and selectors are read back from their bytes. -/

import NameRights.Proofs.Bytes
import NameRights.Word

set_option autoImplicit false
set_option relaxedAutoImplicit false

namespace NameRights

private theorem ofNat_toNat_ofNat {bits : Nat} (width : Nat) (w : BitVec bits)
    (size : 256 ^ width = 2 ^ bits) :
    BitVec.ofNat bits (Bytes.toNat (Bytes.ofNat width w.toNat)) = w := by
  rw [Bytes.toNat_ofNat, size, Nat.mod_eq_of_lt w.isLt, BitVec.ofNat_toNat, BitVec.setWidth_eq]

private theorem toNat_ofNat_toNat {bits width : Nat} {b : Bytes} (length : b.length = width)
    (size : 256 ^ width = 2 ^ bits) :
    Bytes.ofNat width (BitVec.ofNat bits (Bytes.toNat b)).toNat = b := by
  have bound := Bytes.toNat_lt b
  rw [length, size] at bound
  rw [BitVec.toNat_ofNat, Nat.mod_eq_of_lt bound, Bytes.ofNat_toNat length]

namespace Word

@[simp] theorem length_bytes (w : Word) : (bytes w).length = 32 := Bytes.length_ofNat 32 _

@[simp] theorem ofBytes_bytes (w : Word) : ofBytes (bytes w) = w :=
  ofNat_toNat_ofNat 32 w (by decide)

theorem bytes_ofBytes {b : Bytes} (size : b.length = 32) : bytes (ofBytes b) = b :=
  toNat_ofNat_toNat size (by decide)

theorem bytes_injective {w x : Word} (same : bytes w = bytes x) : w = x := by
  rw [← ofBytes_bytes w, same, ofBytes_bytes]

end Word

namespace Address

@[simp] theorem length_bytes (a : Address) : a.bytes.length = 20 := Bytes.length_ofNat 20 _

@[simp] theorem ofBytes_bytes (a : Address) : ofBytes a.bytes = a :=
  congrArg Address.mk (ofNat_toNat_ofNat 20 a.value (by decide))

theorem bytes_ofBytes {b : Bytes} (size : b.length = 20) : (ofBytes b).bytes = b :=
  toNat_ofNat_toNat size (by decide)

theorem bytes_injective {a b : Address} (same : a.bytes = b.bytes) : a = b := by
  rw [← ofBytes_bytes a, same, ofBytes_bytes]

theorem ofBytes_append (front : Bytes) {b : Bytes} (size : b.length = 20) :
    ofBytes (front ++ b) = ofBytes b := by
  have power : 256 ^ 20 = 2 ^ 160 := by decide
  rw [ofBytes, ofBytes, Bytes.toNat_append, size, power, Address.mk.injEq]
  apply BitVec.eq_of_toNat_eq
  rw [BitVec.toNat_ofNat, BitVec.toNat_ofNat, Nat.mul_add_mod_self_right]

theorem ofBytes_eq_iff {w : Bytes} {a : Address} (size : w.length = 32) :
    ofBytes w = a ↔ w.drop 12 = a.bytes := by
  have low : (w.drop 12).length = 20 := by rw [List.length_drop, size]
  have same : ofBytes w = ofBytes (w.drop 12) := by
    conv_lhs => rw [← List.take_append_drop 12 w, ofBytes_append _ low]
  rw [same]
  constructor
  · rintro rfl
    rw [bytes_ofBytes low]
  · intro same
    rw [same, ofBytes_bytes]

end Address

namespace Hash

@[simp] theorem length_bytes (h : Hash) : h.bytes.length = 32 := Bytes.length_ofNat 32 _

@[simp] theorem ofBytes_bytes (h : Hash) : ofBytes h.bytes = h :=
  congrArg Hash.mk (ofNat_toNat_ofNat 32 h.value (by decide))

theorem bytes_ofBytes {b : Bytes} (size : b.length = 32) : (ofBytes b).bytes = b :=
  toNat_ofNat_toNat size (by decide)

theorem bytes_injective {h k : Hash} (same : h.bytes = k.bytes) : h = k := by
  rw [← ofBytes_bytes h, same, ofBytes_bytes]

theorem bytes_inj {h k : Hash} : h.bytes = k.bytes ↔ h = k := ⟨bytes_injective, congrArg bytes⟩

end Hash

namespace Selector

@[simp] theorem length_bytes (s : Selector) : s.bytes.length = 4 := Bytes.length_ofNat 4 _

@[simp] theorem ofBytes_bytes (s : Selector) : ofBytes s.bytes = s :=
  congrArg Selector.mk (ofNat_toNat_ofNat 4 s.value (by decide))

theorem bytes_ofBytes {b : Bytes} (size : b.length = 4) : (ofBytes b).bytes = b :=
  toNat_ofNat_toNat size (by decide)

private theorem bytes_injective {s t : Selector} (same : s.bytes = t.bytes) : s = t := by
  rw [← ofBytes_bytes s, same, ofBytes_bytes]

theorem bytes_inj {s t : Selector} : s.bytes = t.bytes ↔ s = t := ⟨bytes_injective, congrArg bytes⟩

end Selector

end NameRights
