/- NameRights/Proofs/Crypto/Signature
   digest: A signature's numbers lie below the curve's order, and its mark below four. -/

import NameRights.Key.Secret
import NameRights.Proofs.Bytes
import NameRights.Proofs.Digest

set_option autoImplicit false
set_option relaxedAutoImplicit false

namespace NameRights.Secp256k1

/-- A signature whose numbers are residues and whose mark has two bits. -/
def Signature.Bounded (σ : Signature) : Prop :=
  σ.r < order ∧ σ.s < order ∧ σ.recovery < 4

private theorem bounded_of_signWith {nonce secret message : Nat} {σ : Signature}
    (signed : signWith nonce secret message = some σ) : σ.Bounded := by
  have positive : 0 < order := by decide
  unfold signWith at signed
  cases point : generator.mul nonce with
  | infinity =>
    rw [point] at signed
    cases signed
  | affine x y =>
    simp only [point] at signed
    have reduced := Nat.mod_lt (inverse nonce order * (message + x % order * secret)) positive
    have abscissa := Nat.mod_lt x positive
    generalize inverse nonce order * (message + x % order * secret) % order = s at signed reduced
    generalize x % order = r at signed abscissa
    have overflow : (if x ≥ order then 2 else 0) ≤ 2 := by split <;> omega
    generalize (if x ≥ order then 2 else 0) = carried at signed overflow
    split at signed
    · cases signed
    · rename_i nonzero
      split at signed
      · cases signed
        exact ⟨abscissa, by change order - s < order; omega,
          by change (y + 1) % 2 + carried < 4; omega⟩
      · cases signed
        exact ⟨abscissa, reduced, by change y % 2 + carried < 4; omega⟩

private theorem exists_of_firstAlong {σ α : Type} {next : σ → σ} {find : σ → Option α}
    {attempts : Nat} {s : σ} {a : α} (found : firstAlong next find attempts s = some a) :
    ∃ t, find t = some a := by
  induction attempts generalizing s with
  | zero => cases found
  | succ attempts ih =>
    simp only [firstAlong] at found
    split at found
    · rename_i b here
      cases found
      exact ⟨s, here⟩
    · exact ih found

theorem bounded_of_sign {secret : Nat} {message : Bytes} {σ : Signature}
    (signed : sign secret message = some σ) : σ.Bounded := by
  rw [sign] at signed
  obtain ⟨nonces, found⟩ := exists_of_firstAlong signed
  simp only [Nonces.signature?] at found
  split at found
  · exact bounded_of_signWith found
  · cases found

end NameRights.Secp256k1

namespace NameRights

open Secp256k1

theorem Hash.toNat_ofBytes_ofNat {n : Nat} (small : n < order) :
    (Hash.ofBytes (Bytes.ofNat 32 n)).value.toNat = n := by
  have below : n < 2 ^ 256 := Nat.lt_trans small (by decide)
  rw [Hash.ofBytes, BitVec.toNat_ofNat, Bytes.toNat_ofNat]
  omega

namespace SecretKey

/-- A signature in its carried form is a signature of the curve with its mark moved up. -/
theorem signBytes_eq_ok {key : SecretKey} {message : Bytes} {base : Nat} {s : Signed}
    (size : message.length = 32) :
    key.signBytes message base = .ok s ↔ ∃ σ, Secp256k1.sign key.scalar message = some σ ∧
      s = ⟨.ofBytes (Bytes.ofNat 32 σ.r), .ofBytes (Bytes.ofNat 32 σ.s), σ.recovery + base⟩ := by
  rw [signBytes, if_pos size]
  cases signed : Secp256k1.sign key.scalar message with
  | none => simp
  | some σ => simp [eq_comm]

theorem length_messageHash (message : Bytes) : (messageHash message).length = 32 :=
  Keccak.length_hash _

end SecretKey

end NameRights
