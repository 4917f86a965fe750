/- NameRights/Proofs/Bytes
   digest: Numbers written in base 256 and read back. -/

import Mathlib.Algebra.Group.Nat.Defs
import Mathlib.Data.List.Induction
import NameRights.Bytes

set_option autoImplicit false
set_option relaxedAutoImplicit false

namespace NameRights.Bytes

/-- The digits that are written hold the number up to their width. -/
theorem toNat_ofNat (width n : Nat) : toNat (ofNat width n) = n % 256 ^ width := by
  induction width generalizing n with
  | zero =>
    rw [Nat.pow_zero, Nat.mod_one]
    rfl
  | succ width ih =>
    have last : (UInt8.ofNat n).toNat = n % 256 := UInt8.toNat_ofNat'
    rw [ofNat, toNat_append_singleton, ih, last, Nat.pow_succ, Nat.mul_comm (256 ^ width) 256,
      Nat.mod_mul]
    omega

theorem toNat_append (b c : Bytes) : toNat (b ++ c) = toNat b * 256 ^ c.length + toNat c := by
  induction c using List.reverseRecOn with
  | nil => simp [toNat]
  | append_singleton c d ih =>
    rw [← List.append_assoc, toNat_append_singleton, toNat_append_singleton, ih, List.length_append,
      List.length_singleton, Nat.pow_succ, Nat.add_mul, Nat.mul_assoc, Nat.add_assoc]

theorem toNat_lt (b : Bytes) : toNat b < 256 ^ b.length := by
  induction b using List.reverseRecOn with
  | nil => exact Nat.one_pos
  | append_singleton b d ih =>
    have digit := d.toNat_lt
    rw [toNat_append_singleton, List.length_append, List.length_singleton, Nat.pow_succ]
    omega

theorem ofNat_add (high low n : Nat) :
    ofNat (high + low) n = ofNat high (n / 256 ^ low) ++ ofNat low n := by
  induction low generalizing n with
  | zero => simp [ofNat]
  | succ low ih =>
    rw [← Nat.add_assoc, ofNat, ih, Nat.div_div_eq_div_mul, Nat.pow_succ, Nat.mul_comm 256,
      List.append_assoc, ofNat]

theorem ofNat_zero (width : Nat) : ofNat width 0 = zeros width := by
  induction width with
  | zero => rfl
  | succ width ih =>
    rw [ofNat, Nat.zero_div, ih, zeros, zeros, List.replicate_succ']
    rfl

theorem ofNat_toNat {width : Nat} {b : Bytes} (size : b.length = width) :
    ofNat width (toNat b) = b := by
  induction b using List.reverseRecOn generalizing width with
  | nil =>
    obtain rfl := size
    rfl
  | append_singleton b d ih =>
    rw [List.length_append, List.length_singleton] at size
    obtain rfl := size
    have digit := d.toNat_lt
    have high : (toNat b * 256 + d.toNat) / 256 = toNat b := by omega
    have low : UInt8.ofNat (toNat b * 256 + d.toNat) = d := by
      apply UInt8.toNat.inj
      rw [UInt8.toNat_ofNat']
      omega
    rw [toNat_append_singleton, ofNat, high, low, ih rfl]

theorem all_zero_iff {b : Bytes} : b.all (· == 0) = true ↔ b = zeros b.length := by
  rw [zeros, List.all_eq_true, List.eq_replicate_iff]
  simp

private theorem toNat_zeros (count : Nat) : toNat (zeros count) = 0 := by
  rw [← ofNat_zero, toNat_ofNat, Nat.zero_mod]

theorem toNat_of_take_eq_zeros {b : Bytes} {front : Nat} (empty : b.take front = zeros front) :
    toNat b = toNat (b.drop front) := by
  conv_lhs => rw [← List.take_append_drop front b]
  rw [toNat_append, empty, toNat_zeros, Nat.zero_mul, Nat.zero_add]

private theorem pow_le_toNat {b : Bytes} (front : b.head? ≠ some 0) (some : b ≠ []) :
    256 ^ (b.length - 1) ≤ toNat b := by
  cases b with
  | nil => exact absurd rfl some
  | cons d b =>
    have digit : d.toNat ≠ 0 := by
      intro zero
      exact front (congrArg Option.some (UInt8.toNat.inj zero))
    have split : toNat (d :: b) = d.toNat * 256 ^ b.length + toNat b := by
      rw [← List.singleton_append, toNat_append]
      simp [toNat]
    have high := Nat.mul_le_mul_right (256 ^ b.length) (Nat.pos_of_ne_zero digit)
    rw [split, List.length_cons, Nat.add_sub_cancel]
    omega

private theorem eq_of_toNat_eq {b c : Bytes} (left : b.head? ≠ some 0) (right : c.head? ≠ some 0)
    (same : toNat b = toNat c) : b = c := by
  have length_le {b c : Bytes} (front : b.head? ≠ some 0) (same : toNat b = toNat c) :
      b.length ≤ c.length := by
    by_cases empty : b = []
    · rw [empty]
      exact Nat.zero_le _
    · have low := pow_le_toNat front empty
      have high := toNat_lt c
      have shorter := (Nat.pow_lt_pow_iff_right (by decide)).1
        (Nat.lt_of_le_of_lt (same ▸ low) high)
      omega
  have lengths := Nat.le_antisymm (length_le left same) (length_le right same.symm)
  rw [← ofNat_toNat (b := b) rfl, same, lengths, ofNat_toNat rfl]

private theorem toNat_dropWhile_zero (b : Bytes) : toNat (b.dropWhile (· == 0)) = toNat b := by
  induction b with
  | nil => rfl
  | cons d b ih =>
    rw [List.dropWhile_cons]
    split
    · rename_i zero
      have front : (d :: b).take 1 = zeros 1 := by
        rw [beq_iff_eq.1 zero]
        rfl
      rw [ih, toNat_of_take_eq_zeros front]
      rfl
    · rfl

section Minimal

variable {n : Nat}

theorem head?_ofNatMinimal (n : Nat) : (ofNatMinimal n).head? ≠ some 0 := by
  unfold ofNatMinimal
  generalize ofNat 32 n = b
  intro zero
  have front := List.head?_dropWhile_not (· == (0 : UInt8)) b
  rw [zero] at front
  simp at front

theorem toNat_ofNatMinimal (small : n < 2 ^ 256) : toNat (ofNatMinimal n) = n := by
  have power : 256 ^ 32 = 2 ^ 256 := by decide
  rw [ofNatMinimal, toNat_dropWhile_zero, toNat_ofNat, power, Nat.mod_eq_of_lt small]

theorem ofNatMinimal_toNat {b : Bytes} (front : b.head? ≠ some 0) (size : b.length ≤ 32) :
    ofNatMinimal (toNat b) = b := by
  have power : 256 ^ 32 = 2 ^ 256 := by decide
  have bound : toNat b < 2 ^ 256 := by
    rw [← power]
    exact Nat.lt_of_lt_of_le (toNat_lt b) (Nat.pow_le_pow_right (by decide) size)
  exact eq_of_toNat_eq (head?_ofNatMinimal _) front (toNat_ofNatMinimal bound)

theorem ofNatMinimal_ne_nil (pos : 0 < n) (small : n < 2 ^ 256) : ofNatMinimal n ≠ [] := by
  intro empty
  have value := toNat_ofNatMinimal small
  rw [empty] at value
  change 0 = n at value
  omega

theorem length_ofNatMinimal_le (n : Nat) : (ofNatMinimal n).length ≤ 32 := by
  have shorter := (List.dropWhile_suffix (l := ofNat 32 n) (· == 0)).length_le
  rw [length_ofNat] at shorter
  exact shorter

theorem length_ofNatMinimal_le_of_lt {count : Nat} (small : n < 2 ^ 256) (bound : n < 256 ^ count) :
    (ofNatMinimal n).length ≤ count := by
  by_cases empty : ofNatMinimal n = []
  · rw [empty]
    exact Nat.zero_le _
  · have low := pow_le_toNat (head?_ofNatMinimal n) empty
    rw [toNat_ofNatMinimal small] at low
    have shorter := (Nat.pow_lt_pow_iff_right (by decide)).1 (Nat.lt_of_le_of_lt low bound)
    omega

end Minimal

end NameRights.Bytes
