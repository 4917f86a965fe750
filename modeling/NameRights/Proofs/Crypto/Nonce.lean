/- NameRights/Proofs/Crypto/Nonce
   digest: Which of the nonces a secret draws signs, and when the mark of the signature is a
   parity. -/

import Mathlib.Logic.Function.Iterate
import Mathlib.Data.Nat.Init
import NameRights.Crypto.Secp256k1

set_option autoImplicit false
set_option relaxedAutoImplicit false

namespace NameRights.Secp256k1

/-- The source of nonces of a secret and a message, with the first nonce drawn. -/
def Nonces.first (secret : Nat) (message : Bytes) : Nonces :=
  let seed := Bytes.ofNat 32 secret ++ message
  let value := List.replicate 32 (1 : UInt8)
  let key := Hmac.code (Bytes.zeros 32) (value ++ 0 :: seed)
  let value := Hmac.code key value
  let key := Hmac.code key (value ++ 1 :: seed)
  let value := Hmac.code key value
  ⟨key, Hmac.code key value⟩

def drawn (secret : Nat) (message : Bytes) (i : Nat) : Nonces :=
  Nonces.next^[i] (Nonces.first secret message)

/-- The nonce drawn after `i` others is a multiplier, `x` and `y` are the coordinates of its point,
and neither of the two numbers of the signature vanishes. -/
structure SignsAt (secret : Nat) (message : Bytes) (i x y : Nat) : Prop where
  pos : 0 < (drawn secret message i).value.toNat
  below : (drawn secret message i).value.toNat < order
  point : generator.mul (drawn secret message i).value.toNat = .affine x y
  left : x % order ≠ 0
  right : inverse (drawn secret message i).value.toNat order *
    (message.toNat % order + x % order * secret) % order ≠ 0

/-- Of the 128 nonces that a secret draws for 32 bytes, the first that signs has a point whose
abscissa is below the curve's order. For all but about one in `2 ^ 127` of them it has. -/
def SignsPlainly (secret : Nat) (message : Bytes) : Prop :=
  ∃ i < 128, (∃ x y, SignsAt secret message i x y ∧ x < order) ∧
    ∀ j < i, ∀ x y, ¬ SignsAt secret message j x y

section Search

variable {σ α : Type} {next : σ → σ} {find : σ → Option α} {s : σ} {attempts : Nat}

private theorem firstAlong_eq_some {a : α} :
    firstAlong next find attempts s = some a ↔
      ∃ i < attempts, find (next^[i] s) = some a ∧ ∀ j < i, find (next^[j] s) = none := by
  induction attempts generalizing s with
  | zero => simp [firstAlong]
  | succ attempts ih =>
    rw [Nat.exists_lt_succ_left]
    simp only [Nat.forall_lt_succ_left]
    cases found : find s with
    | some b => simp [firstAlong, found]
    | none => simp [firstAlong, found, ih]

end Search

variable {secret : Nat} {message : Bytes} {i x y : Nat} {σ : Signature}

private def made (secret : Nat) (message : Bytes) (i : Nat) : Option Signature :=
  (drawn secret message i).signature? secret (message.toNat % order)

private theorem SignsAt.made (signs : SignsAt secret message i x y) :
    ∃ σ, made secret message i = some σ ∧ (σ.recovery ≤ 1 ↔ x < order) := by
  obtain ⟨pos, below, point, left, right⟩ := signs
  rw [Secp256k1.made, Nonces.signature?, if_pos ⟨pos, below⟩]
  unfold signWith
  simp only [point]
  generalize inverse _ order * (_ + x % order * secret) % order = s at right
  rw [if_neg (by omega)]
  have mark (parity : Nat) (bit : parity ≤ 1) :
      parity + (if x ≥ order then 2 else 0) ≤ 1 ↔ x < order := by
    split <;> omega
  split
  · exact ⟨_, rfl, mark _ (Nat.le_of_lt_succ (Nat.mod_lt _ (by decide)))⟩
  · exact ⟨_, rfl, mark _ (Nat.le_of_lt_succ (Nat.mod_lt _ (by decide)))⟩

private theorem exists_signsAt (signed : made secret message i = some σ) :
    ∃ x y, SignsAt secret message i x y := by
  unfold made Nonces.signature? at signed
  simp only at signed
  split at signed
  · rename_i bounds
    unfold signWith at signed
    split at signed
    · cases signed
    · rename_i x y point
      simp only at signed
      split at signed
      · cases signed
      · rename_i sound
        obtain ⟨left, right⟩ := not_or.1 sound
        exact ⟨x, y, bounds.1, bounds.2, point, left, right⟩
  · cases signed

private theorem made_eq_none :
    made secret message i = none ↔ ∀ x y, ¬ SignsAt secret message i x y := by
  constructor
  · intro none x y signs
    obtain ⟨σ, signed, -⟩ := signs.made
    cases none.symm.trans signed
  · intro none
    cases signed : made secret message i with
    | none => rfl
    | some σ =>
      obtain ⟨x, y, signs⟩ := exists_signsAt signed
      exact absurd signs (none x y)

/-- The mark of a signature is a parity exactly if the point of the nonce that signs has an abscissa
below the curve's order. -/
theorem sign_plain_iff :
    (∃ σ, sign secret message = some σ ∧ σ.recovery ≤ 1) ↔ SignsPlainly secret message := by
  have searched (σ : Signature) : sign secret message = some σ ↔
      ∃ i < 128, made secret message i = some σ ∧ ∀ j < i, made secret message j = none :=
    firstAlong_eq_some
  simp only [searched, made_eq_none]
  constructor
  · rintro ⟨σ, ⟨i, few, signed, before⟩, parity⟩
    obtain ⟨x, y, signs⟩ := exists_signsAt signed
    obtain ⟨σ', signed', plain⟩ := signs.made
    cases signed.symm.trans signed'
    exact ⟨i, few, ⟨x, y, signs, plain.1 parity⟩, before⟩
  · rintro ⟨i, few, ⟨x, y, signs, small⟩, before⟩
    obtain ⟨σ, signed, plain⟩ := signs.made
    exact ⟨σ, ⟨i, few, signed, before⟩, plain.2 small⟩

end NameRights.Secp256k1
