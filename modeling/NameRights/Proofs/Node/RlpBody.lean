/- NameRights/Proofs/Node/RlpBody
   digest: The coding of a list determines the codings of its items, whatever their length. -/

import NameRights.Node.Rlp
import NameRights.Proofs.Bytes

set_option autoImplicit false
set_option relaxedAutoImplicit false

namespace NameRights.Rlp

private theorem encodeAll_append (xs ys : List Rlp) :
    encodeAll (xs ++ ys) = encodeAll xs ++ encodeAll ys := by
  induction xs with
  | nil => simp [encodeAll]
  | cons x xs ih => simp [encodeAll, ih]

/-- The first byte of a list's front tells a short length from a long one, and tells how many
digits a long one has. -/
private theorem length_front_eq {n m : Nat} {b c : Bytes}
    (same : front 0xc0 n ++ b = front 0xc0 m ++ c) :
    (front 0xc0 n).length = (front 0xc0 m).length := by
  have hn := Bytes.length_ofNatMinimal_le n
  have hm := Bytes.length_ofNatMinimal_le m
  have heads := congrArg (fun bytes : Bytes => bytes.head?.map UInt8.toNat) same
  unfold front at heads ⊢
  split <;> split
  · rfl
  · rename_i short long
    simp only [if_pos short, if_neg long, List.cons_append, List.head?_cons, Option.map_some,
      Option.some.injEq, UInt8.toNat_ofNat'] at heads
    simp only [List.length_cons, List.length_nil]
    omega
  · rename_i long short
    simp only [if_neg long, if_pos short, List.cons_append, List.head?_cons, Option.map_some,
      Option.some.injEq, UInt8.toNat_ofNat'] at heads
    simp only [List.length_cons, List.length_nil]
    omega
  · rename_i long long'
    simp only [if_neg long, if_neg long', List.cons_append, List.head?_cons, Option.map_some,
      Option.some.injEq, UInt8.toNat_ofNat'] at heads
    simp only [List.length_cons]
    omega

private theorem encodeAll_eq_of_encode_list_eq {xs ys : List Rlp}
    (same : (Rlp.list xs).encode = (Rlp.list ys).encode) : encodeAll xs = encodeAll ys := by
  simp only [encode] at same
  exact (List.append_inj same (length_front_eq same)).2

/-- Lists that agree up to their last items agree in the codings of these. -/
theorem encodeAll_eq_of_same_start {start xs ys : List Rlp}
    (same : (Rlp.list (start ++ xs)).encode = (Rlp.list (start ++ ys)).encode) :
    encodeAll xs = encodeAll ys := by
  have bodies := encodeAll_eq_of_encode_list_eq same
  rw [encodeAll_append, encodeAll_append] at bodies
  exact List.append_cancel_left bodies

private theorem ofNat_one_digit {n : Nat} (small : n < 256) (width : Nat) :
    Bytes.ofNat (width + 1) n = Bytes.zeros width ++ [UInt8.ofNat n] := by
  induction width generalizing n with
  | zero => rfl
  | succ width ih =>
    have high : n / 256 = 0 := by omega
    rw [Bytes.ofNat, high, ih (by decide)]
    simp [Bytes.zeros, List.replicate_succ']

private theorem encode_nat_small {n : Nat} (pos : 0 < n) (small : n < 128) :
    (nat n).encode = [UInt8.ofNat n] := by
  have value : (UInt8.ofNat n).toNat = n := by
    rw [UInt8.toNat_ofNat']
    omega
  have nonzero : (UInt8.ofNat n == 0) = false := by
    apply beq_false_of_ne
    intro zero
    rw [zero] at value
    change 0 = n at value
    omega
  have digits : Bytes.ofNatMinimal n = [UInt8.ofNat n] := by
    rw [Bytes.ofNatMinimal, ofNat_one_digit (by omega), Bytes.zeros,
      List.dropWhile_append_of_pos (by simp), List.dropWhile_cons, nonzero]
    rfl
  have below : UInt8.ofNat n < 0x80 := by
    rw [UInt8.lt_iff_toNat_lt, value]
    exact small
  simp [nat, encode, encodeBytes, digits, below]

private theorem encode_nat_zero : (nat 0).encode = [0x80] := by
  decide +kernel

theorem encodeAll_parity_ne {y v : Nat} (parity : y ≤ 1) (low : 27 ≤ v) (high : v < 128)
    (xs ys : List Rlp) : encodeAll (nat y :: xs) ≠ encodeAll (nat v :: ys) := by
  rw [encodeAll, encodeAll, encode_nat_small (by omega : 0 < v) high]
  generalize encodeAll xs = a
  generalize encodeAll ys = b
  intro same
  have byte : (UInt8.ofNat v).toNat = v := by
    rw [UInt8.toNat_ofNat']
    omega
  rcases (by omega : y = 0 ∨ y = 1) with rfl | rfl
  · rw [encode_nat_zero] at same
    have heads : 0x80 = UInt8.ofNat v := (List.cons.inj same).1
    rw [← heads] at byte
    change 128 = v at byte
    omega
  · rw [encode_nat_small (by decide) (by decide)] at same
    have heads : UInt8.ofNat 1 = UInt8.ofNat v := (List.cons.inj same).1
    rw [← heads] at byte
    change 1 = v at byte
    omega

end NameRights.Rlp
