/- NameRights/Proofs/Text/Numeral
   digest: Digits of a base and the number that they denote. -/

import Mathlib.Data.Nat.Digits.Defs
import NameRights.Proofs.Bytes
import NameRights.Proofs.HexText

set_option autoImplicit false
set_option relaxedAutoImplicit false

namespace NameRights

namespace Text

/-- A digit of a base, of either case, and its value. -/
def IsDigit (base : Nat) (c : Char) (d : Nat) : Prop :=
  d < base ∧ (c = Nat.digitChar d ∨ c = (Nat.digitChar d).toUpper)

/-- Digits of a base, the highest first, and the number that they denote. -/
inductive AreDigits (base : Nat) : List Char → Nat → Prop
  | nil : AreDigits base [] 0
  | cons {c : Char} {d n : Nat} {cs : List Char} (first : IsDigit base c d)
      (rest : AreDigits base cs n) : AreDigits base (c :: cs) (d * base ^ cs.length + n)

variable {base d n : Nat} {c : Char} {cs : List Char}

theorem isDigit_ten_iff : IsDigit 10 c d ↔ c.isDigit = true ∧ c.toNat - 48 = d := by
  have read : ∀ k < 10, ((Nat.digitChar k).isDigit = true ∧ (Nat.digitChar k).toNat - 48 = k) ∧
      (Nat.digitChar k).toUpper = Nat.digitChar k := by decide
  constructor
  · rintro ⟨small, rfl | rfl⟩
    · exact (read d small).1
    · rw [(read d small).2]
      exact (read d small).1
  · rintro ⟨decimal, rfl⟩
    have bounds : 48 ≤ c.toNat ∧ c.toNat ≤ 57 := by
      simpa [Char.isDigit, UInt32.le_iff_toNat_le] using decimal
    have small : c.toNat - 48 < 10 := by omega
    refine ⟨small, Or.inl (Char.toNat_inj.1 ?_)⟩
    rw [Nat.toNat_digitChar_of_lt_ten small]
    omega

theorem isDigit_sixteen_iff : IsDigit 16 c d ↔ Hex.digit? c = some d := by
  have read : ∀ k < 16, Hex.digit? (Nat.digitChar k) = some k ∧
      Hex.digit? (Nat.digitChar k).toUpper = some k := by decide
  have letters : ∀ k < 16, 10 ≤ k → (Nat.digitChar k).toNat = k + 87 ∧
      (Nat.digitChar k).toUpper.toNat = k + 55 := by decide
  constructor
  · rintro ⟨small, rfl | rfl⟩
    · exact (read d small).1
    · exact (read d small).2
  · intro digit
    unfold Hex.digit? at digit
    simp only [Char.le_def, UInt32.le_iff_toNat_le] at digit
    split at digit
    · rename_i bounds
      have bounds : 48 ≤ c.toNat ∧ c.toNat ≤ 57 := bounds
      cases digit
      have small : c.toNat - 48 < 10 := by omega
      refine ⟨by omega, Or.inl (Char.toNat_inj.1 ?_)⟩
      rw [Nat.toNat_digitChar_of_lt_ten small]
      omega
    · split at digit
      · rename_i bounds
        have bounds : 97 ≤ c.toNat ∧ c.toNat ≤ 102 := bounds
        cases digit
        have small : c.toNat - 87 < 16 := by omega
        refine ⟨small, Or.inl (Char.toNat_inj.1 ?_)⟩
        rw [(letters _ small (by omega)).1]
        omega
      · split at digit
        · rename_i bounds
          have bounds : 65 ≤ c.toNat ∧ c.toNat ≤ 70 := bounds
          cases digit
          have small : c.toNat - 55 < 16 := by omega
          refine ⟨small, Or.inr (Char.toNat_inj.1 ?_)⟩
          rw [(letters _ small (by omega)).2]
          omega
        · cases digit

theorem AreDigits.lt (digits : AreDigits base cs n) : n < base ^ cs.length := by
  induction digits with
  | nil => exact Nat.one_pos
  | @cons c d n cs first rest ih =>
    have whole : (d + 1) * base ^ cs.length ≤ base * base ^ cs.length :=
      Nat.mul_le_mul_right _ first.1
    rw [List.length_cons, Nat.pow_succ, Nat.mul_comm (base ^ cs.length)]
    rw [Nat.add_mul] at whole
    omega

private theorem AreDigits.concat (digits : AreDigits base cs n) (last : IsDigit base c d) :
    AreDigits base (cs ++ [c]) (n * base + d) := by
  induction digits with
  | nil => simpa using AreDigits.cons last .nil
  | @cons c' d' n cs first rest ih =>
    have moved : d' * base ^ (cs ++ [c]).length + (n * base + d) =
        (d' * base ^ cs.length + n) * base + d := by
      rw [List.length_append, List.length_singleton, Nat.pow_succ, Nat.add_mul, Nat.mul_assoc,
        Nat.add_assoc]
    rw [← moved]
    exact .cons first ih

theorem AreDigits.exists_digit (digits : AreDigits base cs n) (member : c ∈ cs) :
    ∃ d, IsDigit base c d := by
  induction digits with
  | nil => cases member
  | cons first rest ih =>
    rcases List.mem_cons.1 member with rfl | later
    · exact ⟨_, first⟩
    · exact ih later

theorem exists_areDigits (digits : ∀ c ∈ cs, ∃ d, IsDigit base c d) : ∃ n, AreDigits base cs n := by
  induction cs with
  | nil => exact ⟨0, .nil⟩
  | cons c cs ih =>
    obtain ⟨⟨d, first⟩, rest⟩ := List.forall_mem_cons.1 digits
    obtain ⟨n, rest⟩ := ih rest
    exact ⟨_, .cons first rest⟩

theorem AreDigits.unique {m : Nat} (small : base ≤ 16) (digits : AreDigits base cs n)
    (others : AreDigits base cs m) : n = m := by
  induction digits generalizing m with
  | nil =>
    cases others
    rfl
  | cons first rest ih =>
    cases others with
    | cons first' rest' =>
      have value := isDigit_sixteen_iff.1 ⟨Nat.lt_of_lt_of_le first.1 small, first.2⟩
      have value' := isDigit_sixteen_iff.1 ⟨Nat.lt_of_lt_of_le first'.1 small, first'.2⟩
      cases value.symm.trans value'
      rw [ih rest']

theorem areDigits_toDigits (low : 1 < base) (high : base ≤ 16) (n : Nat) :
    AreDigits base (Nat.toDigits base n) n := by
  induction n using Nat.strongRecOn with
  | ind n ih =>
    rw [Nat.toDigits_eq_if low]
    split
    · rename_i small
      simpa using AreDigits.cons ⟨small, Or.inl rfl⟩ .nil
    · rename_i large
      have shorter : n / base < n := Nat.div_lt_self (by omega) low
      have last : IsDigit base (Nat.digitChar (n % base)) (n % base) :=
        ⟨Nat.mod_lt _ (by omega), Or.inl rfl⟩
      have whole := (ih _ shorter).concat last
      rwa [Nat.div_add_mod'] at whole

theorem areDigits_zero_cons_iff : AreDigits 16 ('0' :: cs) n ↔ AreDigits 16 cs n := by
  have zero : Hex.digit? '0' = some 0 := rfl
  constructor
  · intro digits
    generalize led : '0' :: cs = whole at digits
    cases digits with
    | nil => cases led
    | @cons c d n cs first rest =>
      cases led
      cases zero.symm.trans (isDigit_sixteen_iff.1 first)
      rwa [Nat.zero_mul, Nat.zero_add]
  · intro digits
    have led := AreDigits.cons (isDigit_sixteen_iff.2 zero) digits
    rwa [Nat.zero_mul, Nat.zero_add] at led

/-! Digits are plain characters, and none is part of a mark. -/

private theorem IsDigit.plain (small : base ≤ 16) (digit : IsDigit base c d) :
    c.toNat < 128 ∧ c ≠ 'x' := by
  have lower : ∀ k < 16, (Nat.digitChar k).toNat < 128 ∧ Nat.digitChar k ≠ 'x' := by decide
  have upper : ∀ k < 16, (Nat.digitChar k).toUpper.toNat < 128 ∧
      (Nat.digitChar k).toUpper ≠ 'x' := by decide
  have below := Nat.lt_of_lt_of_le digit.1 small
  rcases digit.2 with rfl | rfl
  · exact lower d below
  · exact upper d below

theorem AreDigits.plain (small : base ≤ 16) (digits : AreDigits base cs n) (member : c ∈ cs) :
    c.toNat < 128 ∧ c ≠ 'x' := by
  obtain ⟨d, digit⟩ := digits.exists_digit member
  exact digit.plain small

end Text

namespace Hex

open Text

variable {cs : List Char} {bytes : Bytes} {n : Nat}

/-- Characters that spell bytes are the digits of the number of these bytes. -/
theorem Spells.areDigits (spelled : Spells cs bytes) : AreDigits 16 cs bytes.toNat := by
  induction spelled with
  | nil => exact .nil
  | @cons hi lo h l cs bytes high low rest ih =>
    have high := isDigit_sixteen_iff.2 high
    have low := isDigit_sixteen_iff.2 low
    have byte : (UInt8.ofNat (h * 16 + l)).toNat = h * 16 + l := by
      have bounds := And.intro high.1 low.1
      rw [UInt8.toNat_ofNat']
      omega
    have places : 16 ^ cs.length = 256 ^ bytes.length := by
      rw [rest.length_eq, Nat.pow_mul]
    have value : Bytes.toNat (UInt8.ofNat (h * 16 + l) :: bytes) =
        h * 16 ^ (lo :: cs).length + (l * 16 ^ cs.length + bytes.toNat) := by
      rw [← List.singleton_append, Bytes.toNat_append, ← places, List.length_cons, Nat.pow_succ]
      change (0 * 256 + (UInt8.ofNat (h * 16 + l)).toNat) * 16 ^ cs.length + _ = _
      rw [byte]
      ring
    rw [value]
    exact .cons high (.cons low ih)

theorem exists_spells : ∀ {cs : List Char} {n : Nat}, AreDigits 16 cs n → cs.length % 2 = 0 →
    ∃ bytes, Spells cs bytes
  | [], _, _, _ => ⟨[], .nil⟩
  | [_], _, _, odd => nomatch odd
  | _ :: _ :: cs, _, digits, even => by
    cases digits with
    | cons high digits =>
      cases digits with
      | cons low rest =>
        have shorter : cs.length % 2 = 0 := by
          rw [List.length_cons, List.length_cons] at even
          omega
        obtain ⟨bytes, spelled⟩ := exists_spells rest shorter
        exact ⟨_, .cons (isDigit_sixteen_iff.1 high) (isDigit_sixteen_iff.1 low) spelled⟩

theorem minimalDigits_eq (n : Nat) (written : List Char) :
    minimalDigits n written = Nat.toDigits 16 n ++ written := by
  have same : ∀ k < 16, digit k = Nat.digitChar k := by decide
  induction n using Nat.strongRecOn generalizing written with
  | ind n ih =>
    rw [minimalDigits, Nat.toDigits_eq_if (by decide)]
    split
    · rename_i small
      rw [same n small, List.singleton_append]
    · rename_i large
      rw [ih (n / 16) (by omega), same (n % 16) (Nat.mod_lt n (by decide)), List.append_assoc,
        List.singleton_append]

end Hex

end NameRights
