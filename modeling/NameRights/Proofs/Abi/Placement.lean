/- NameRights/Proofs/Abi/Placement
   digest: Bytes that stand at a place in data, and what the readers of data find there. -/

import NameRights.Abi.Decode
import NameRights.Abi.Encode
import NameRights.Proofs.Bytes
import NameRights.Proofs.Result

set_option autoImplicit false
set_option relaxedAutoImplicit false

namespace NameRights.Bytes

def Stands (bytes data : Bytes) (offset : Nat) : Prop :=
  offset ≤ data.length ∧ bytes <+: data.drop offset

variable {b c data : Bytes} {offset start : Nat}

theorem stands_self (b rest : Bytes) : Stands b (b ++ rest) 0 :=
  ⟨Nat.zero_le _, ⟨rest, rfl⟩⟩

theorem Stands.le (stands : Stands b data offset) : offset + b.length ≤ data.length := by
  have shorter := stands.2.length_le
  rw [List.length_drop] at shorter
  have inside := stands.1
  omega

theorem Stands.left (stands : Stands (b ++ c) data offset) : Stands b data offset :=
  ⟨stands.1, (List.prefix_append b c).trans stands.2⟩

theorem Stands.right (stands : Stands (b ++ c) data offset) :
    Stands c data (offset + b.length) := by
  have whole := stands.le
  rw [List.length_append] at whole
  obtain ⟨rest, split⟩ := stands.2
  refine ⟨by omega, rest, ?_⟩
  rw [← List.drop_drop, ← split, List.append_assoc, List.drop_left]

theorem Stands.within (stands : Stands b data (start + offset)) :
    Stands b (data.drop start) offset := by
  have inside := stands.1
  refine ⟨?_, ?_⟩
  · rw [List.length_drop]
    omega
  · rw [List.drop_drop]
    exact stands.2

private theorem Stands.slice? (stands : Stands b data offset) :
    data.slice? offset b.length = some b := by
  rw [Bytes.slice?, if_pos stands.le, ← List.prefix_iff_eq_take.1 stands.2]

private theorem slice?_eq_some {count : Nat} :
    data.slice? offset count = some b ↔ b.length = count ∧ Stands b data offset := by
  constructor
  · intro found
    unfold Bytes.slice? at found
    split at found
    · rename_i inside
      obtain rfl := Option.some.inj found
      have size : ((data.drop offset).take count).length = count := by
        rw [List.length_take, List.length_drop]
        omega
      exact ⟨size, Nat.le_trans (Nat.le_add_right _ _) inside, List.take_prefix _ _⟩
    · cases found
  · rintro ⟨rfl, stands⟩
    exact stands.slice?

private theorem Stands.append (first : Stands b data offset)
    (second : Stands c data (offset + b.length)) :
    Stands (b ++ c) data offset := by
  obtain ⟨rest, split⟩ := first.2
  obtain ⟨last, tail⟩ := second.2
  refine ⟨first.1, last, ?_⟩
  rw [← List.drop_drop, ← split, List.drop_left] at tail
  rw [List.append_assoc, tail, split]

end NameRights.Bytes

namespace NameRights.Abi

open Bytes Result

variable {b data : Bytes} {offset start n : Nat}

@[simp] theorem length_word (n : Nat) : (word n).length = 32 := Bytes.length_ofNat 32 n

theorem bytesAt_eq_ok {count : Nat} :
    bytesAt data offset count = .ok b ↔ b.length = count ∧ Stands b data offset := by
  rw [← slice?_eq_some, bytesAt]
  cases data.slice? offset count with
  | none => simp
  | some c => simp

theorem wordAt_eq_bytesAt (data : Bytes) (offset : Nat) :
    wordAt data offset = bytesAt data offset 32 := rfl

theorem wordAt_eq_ok : wordAt data offset = .ok b ↔ b.length = 32 ∧ Stands b data offset := by
  rw [wordAt_eq_bytesAt, bytesAt_eq_ok]

theorem wordAt_of_stands (size : b.length = 32) (stands : Stands b data offset) :
    wordAt data offset = .ok b := wordAt_eq_ok.2 ⟨size, stands⟩

theorem bytesAt_of_stands (stands : Stands b data offset) :
    bytesAt data offset b.length = .ok b := bytesAt_eq_ok.2 ⟨rfl, stands⟩

private theorem word_eq_of_lt (small : n < 2 ^ 32) : word n = zeros 28 ++ Bytes.ofNat 4 n := by
  have high : n / 256 ^ 4 = 0 := Nat.div_eq_of_lt small
  rw [word, Bytes.ofNat_add 28 4 n, high, Bytes.ofNat_zero]

theorem sizeAt_of_stands (small : n < 2 ^ 32) (stands : Stands (word n) data offset) :
    sizeAt data offset = .ok n := by
  have empty : ((word n).take 28).all (· == 0) = true := by
    rw [word_eq_of_lt small, List.take_left' (by simp [zeros])]
    simp [zeros]
  have value : (word n).toNat = n := by
    rw [word, Bytes.toNat_ofNat, Nat.mod_eq_of_lt (Nat.lt_trans small (by decide))]
  simp only [sizeAt, wordAt_of_stands (length_word n) stands, bind, Except.bind, if_pos empty,
    value]

private theorem take_eq_zeros_iff {front : Nat} (size : b.length = 32) (few : front ≤ 32) :
    (b.take front).all (· == 0) = true ↔ b.take front = zeros front := by
  rw [all_zero_iff, List.length_take, size, Nat.min_eq_left few]

private theorem sizeAt_eq_ok :
    sizeAt data offset = .ok n ↔ n < 2 ^ 32 ∧ Stands (word n) data offset := by
  refine ⟨fun read => ?_, fun ⟨small, stands⟩ => sizeAt_of_stands small stands⟩
  obtain ⟨b, found, read⟩ := bind_eq_ok.1 read
  obtain ⟨size, stands⟩ := wordAt_eq_ok.1 found
  split at read
  · rename_i empty
    obtain rfl := Except.ok.inj read
    have low : (b.drop 28).length = 4 := by rw [List.length_drop, size]
    have bound := toNat_lt (b.drop 28)
    rw [low, ← toNat_of_take_eq_zeros ((take_eq_zeros_iff size (by decide)).1 empty)] at bound
    refine ⟨bound, ?_⟩
    rw [word, ofNat_toNat size]
    exact stands
  · cases read

/-- Counted bytes are those behind their number, wherever the offset points. -/
theorem countedAt_eq_ok : countedAt data offset = .ok b ↔ b.length < 2 ^ 32 ∧
    ∃ start < 2 ^ 32, Stands (word start) data offset ∧ Stands (word b.length ++ b) data start := by
  constructor
  · intro read
    obtain ⟨start, startRead, read⟩ := bind_eq_ok.1 read
    obtain ⟨count, countRead, read⟩ := bind_eq_ok.1 read
    obtain ⟨near, offsetStands⟩ := sizeAt_eq_ok.1 startRead
    obtain ⟨short, countStands⟩ := sizeAt_eq_ok.1 countRead
    obtain ⟨rfl, stands⟩ := bytesAt_eq_ok.1 read
    rw [← length_word b.length] at stands
    exact ⟨short, start, near, offsetStands, countStands.append stands⟩
  · rintro ⟨short, start, near, offsetStands, stands⟩
    have body := stands.right
    rw [length_word] at body
    simp only [countedAt, sizeAt_of_stands near offsetStands, sizeAt_of_stands short stands.left,
      bytesAt_of_stands body, ok_bind]

theorem boolAt_eq_ok {t : Bool} : boolAt data offset = .ok t ↔ ∃ w, w.length = 32 ∧
    Stands w data offset ∧ w.take 31 = zeros 31 ∧ (t = true ↔ w.drop 31 = [1]) := by
  have value {w : Bytes} (size : w.length = 32) (empty : w.take 31 = zeros 31) :
      (w.toNat == 1) = true ↔ w.drop 31 = [1] := by
    have last : (w.drop 31).length = 1 := by rw [List.length_drop, size]
    obtain ⟨d, only⟩ := List.length_eq_one_iff.1 last
    have number : w.toNat = d.toNat := by
      rw [toNat_of_take_eq_zeros empty, only, ← List.nil_append [d], toNat_append_singleton]
      exact Nat.zero_add _
    rw [number, only, beq_iff_eq, List.singleton_inj, ← UInt8.toNat_inj]
    rfl
  constructor
  · intro read
    obtain ⟨w, found, read⟩ := bind_eq_ok.1 read
    obtain ⟨size, stands⟩ := wordAt_eq_ok.1 found
    split at read
    · rename_i zero
      obtain rfl := Except.ok.inj read
      have empty := (take_eq_zeros_iff size (by decide)).1 zero
      exact ⟨w, size, stands, empty, value size empty⟩
    · cases read
  · rintro ⟨w, size, stands, empty, last⟩
    have same : (w.toNat == 1) = t := Bool.eq_iff_iff.2 ((value size empty).trans last.symm)
    simp only [boolAt, wordAt_of_stands size stands, ok_bind,
      if_pos ((take_eq_zeros_iff size (by decide)).2 empty), same]

theorem countedAt_of_stands (near : start < 2 ^ 32) (short : b.length < 2 ^ 32)
    (offsetStands : Stands (word start) data offset) (stands : Stands (counted b) data start) :
    countedAt data offset = .ok b := by
  have bare : Stands (word b.length ++ b) data start := by
    rw [counted, padRight, ← List.append_assoc] at stands
    exact stands.left
  exact countedAt_eq_ok.2 ⟨short, start, near, offsetStands, bare⟩

theorem boolAt_of_stands {t : Bool} (stands : Stands (word t.toNat) data offset) :
    boolAt data offset = .ok t := by
  refine boolAt_eq_ok.2 ⟨word t.toNat, length_word _, stands, ?_⟩
  cases t with
  | false => decide
  | true => decide

theorem listAt_behind (near : start < 2 ^ 32) (inside : start ≤ data.length)
    (stands : Stands (word start) data offset) :
    listAt true data offset = .ok (data.drop start, 0) := by
  simp only [listAt, if_true, sizeAt_of_stands near stands, bind, Except.bind, if_pos inside]

end NameRights.Abi
