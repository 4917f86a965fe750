/- NameRights/Proofs/Node/LegacySubmission
   digest: What a local key submits for a transaction without a type. -/

import NameRights.Proofs.Crypto.Nonce
import NameRights.Proofs.Crypto.Sha256
import NameRights.Proofs.Keccak
import NameRights.Proofs.Node.Envelope
import NameRights.Proofs.Node.Submission
import NameRights.Proofs.Node.TypedSubmission

set_option autoImplicit false
set_option relaxedAutoImplicit false

namespace NameRights

namespace Transaction

/-- A transaction without a type, with three numbers in the place of the signature. -/
def envelope (t : Transaction) (v r s : Nat) : Envelope where
  nonce := t.nonce.toNat
  gasPrice := t.gasPrice.toNat
  gas := t.gas.toNat
  recipient := t.recipient
  value := t.value.toNat
  data := t.data
  v := v
  r := r
  s := s

private theorem items_envelope (t : Transaction) (v r s : Nat) :
    (t.envelope v r s).items = t.common ++ [.nat v, .nat r, .nat s] := by
  simp only [common, List.cons_append, List.nil_append]
  rfl

theorem coded_legacy (t : Transaction) (chain v r s : Nat) :
    t.coded chain .legacy v r s = (t.envelope v r s).encode := by
  rw [Envelope.encode, items_envelope, coded, mark, body, List.nil_append]

private theorem digest_legacy (t : Transaction) (chain : Nat) :
    t.digest chain .legacy = Keccak.hash (t.envelope chain 0 0).encode := by
  rw [← coded_legacy t chain, digest, signingBytes, coded, unsignedItems]

theorem fits_envelope (t : Transaction) {v r s : Nat} (mark : v < 2 ^ 256) (left : r < 2 ^ 256)
    (right : s < 2 ^ 256) : (t.envelope v r s).Fits where
  nonce := t.nonce.isLt
  gasPrice := t.gasPrice.isLt
  gas := t.gas.isLt
  value := t.value.isLt
  v := mark
  r := left
  s := right

/-- The list that is sent is the list that is hashed, with the signature of the hash in it and the
chain id in its mark. -/
theorem sign_legacy {t : Transaction} {chain : Nat} {key : SecretKey} {σ : Secp256k1.Signature}
    (legacy : form? t.type = some .legacy)
    (signed : Secp256k1.sign key.scalar (Keccak.hash (t.envelope chain 0 0).encode) = some σ)
    (room : 35 + 2 * chain + σ.recovery < 2 ^ 64) :
    t.sign chain key = .ok (t.envelope (35 + 2 * chain + σ.recovery) σ.r σ.s).encode := by
  have size : (t.digest chain .legacy).length = 32 := Keccak.length_hash _
  rw [← t.digest_legacy] at signed
  have made : t.signature chain .legacy key = .ok
      ⟨.ofBytes (Bytes.ofNat 32 σ.r), .ofBytes (Bytes.ofNat 32 σ.s),
        σ.recovery + (35 + chain * 2)⟩ :=
    (SecretKey.signBytes_eq_ok size).2 ⟨σ, signed, rfl⟩
  have fits : σ.recovery + (35 + chain * 2) < UInt64.size := by
    rw [show UInt64.size = 2 ^ 64 from rfl]
    omega
  have bounded := Secp256k1.bounded_of_sign signed
  simp only [sign, legacy, made, if_pos fits, signedBytes_eq t chain _ _ bounded, coded_legacy,
    Nat.mul_comm 2]

end Transaction

namespace Node

open Exchange

section Legacy

variable {key : SecretKey} {recipient : Address} {data : Bytes} {terms : TransactionTerms}

end Legacy

def secondKey : SecretKey := ⟨2, by decide, by decide⟩

def paid : Envelope :=
  ⟨(1 : Word).toNat, (1 : Word).toNat, (21000 : Word).toNat, .zero, (5 : Word).toNat, [42],
    (1 : Word).toNat, 0, 0⟩

theorem signsPlainly_paid :
    Secp256k1.SignsPlainly secondKey.scalar (Keccak.hash paid.encode) := by
  have hash : Keccak.hash paid.encode =
      Bytes.ofNat 32 0x2b2b22472d1f0487f47e63262ce4991b85ba3aafd85a8c28734eac444010e77b := by
    rw [Keccak.hash_eq]
    decide +kernel
  have nonce : (Secp256k1.drawn secondKey.scalar (Keccak.hash paid.encode) 0).value.toNat =
      36545896050780109304280168965132771941951157637991386327718906501658075332174 := by
    rw [hash, Secp256k1.drawn, Function.iterate_zero, id, Secp256k1.Nonces.first, Hmac.code_eq]
    decide +kernel
  have signs : Secp256k1.SignsAt secondKey.scalar (Keccak.hash paid.encode) 0
      18184163022636274626296305494742940831525053019721397878819742219963686685670
      68408103323574035066737201300257386969518797160133577561382248264401350783236 := by
    constructor
    · rw [nonce]
      decide
    · rw [nonce]
      decide
    · rw [nonce]
      decide +kernel
    · decide +kernel
    · rw [nonce, hash]
      decide +kernel
  exact ⟨0, by decide, ⟨_, _, signs, by decide⟩, fun j none => absurd none (Nat.not_lt_zero j)⟩

end Node

end NameRights
