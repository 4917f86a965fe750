/- NameRights/Proofs/Node/Envelope
   digest: The nine items of a transaction without a type, written and read back. -/

import NameRights.Proofs.Node.RlpRoundTrip
import NameRights.Proofs.Word

set_option autoImplicit false
set_option relaxedAutoImplicit false

namespace NameRights

namespace Rlp

/-- Reads a number of 256 bits: its digits in base 256 without a zero in front. -/
def number? : Rlp → Option Nat
  | .bytes b => if b.head? ≠ some 0 ∧ b.length ≤ 32 then some b.toNat else none
  | .list _ => none

def bytes? : Rlp → Option Bytes
  | .bytes b => some b
  | .list _ => none

def address? : Rlp → Option Address
  | .bytes b => Address.ofBytes? b
  | .list _ => none

theorem number?_eq_some {item : Rlp} {n : Nat} :
    item.number? = some n ↔ n < 2 ^ 256 ∧ item = nat n := by
  constructor
  · intro read
    cases item with
    | bytes b =>
      by_cases digits : b.head? ≠ some 0 ∧ b.length ≤ 32
      · rw [number?, if_pos digits] at read
        have value := Option.some.inj read
        have below := Bytes.toNat_lt b
        have power : (256 : Nat) ^ 32 = 2 ^ 256 := by decide
        have few : 256 ^ b.length ≤ 256 ^ 32 := Nat.pow_le_pow_right (by decide) digits.2
        rw [value] at below
        refine ⟨power ▸ Nat.lt_of_lt_of_le below few, ?_⟩
        rw [nat, ← value, Bytes.ofNatMinimal_toNat digits.1 digits.2]
      · rw [number?, if_neg digits] at read
        cases read
    | list items => cases read
  · intro written
    rw [written.2, nat, number?,
      if_pos ⟨Bytes.head?_ofNatMinimal n, Bytes.length_ofNatMinimal_le n⟩,
      Bytes.toNat_ofNatMinimal written.1]

private theorem bytes?_eq_some {item : Rlp} {b : Bytes} :
    item.bytes? = some b ↔ item = .bytes b := by
  cases item with
  | bytes c => simp [bytes?]
  | list items => simp [bytes?]

theorem address?_eq_some {item : Rlp} {a : Address} :
    item.address? = some a ↔ item = .bytes a.bytes := by
  constructor
  · intro read
    cases item with
    | bytes b =>
      by_cases size : b.length = 20
      · rw [address?, Address.ofBytes?, if_pos size] at read
        rw [← Option.some.inj read, Address.bytes_ofBytes size]
      · rw [address?, Address.ofBytes?, if_neg size] at read
        cases read
    | list items => cases read
  · intro written
    rw [written, address?, Address.ofBytes?, if_pos (Address.length_bytes a),
      Address.ofBytes_bytes]

end Rlp

/-- The nine items that a transaction without a type consists of. Before it is signed, the chain id
and two zeros take the place of the last three. -/
structure Envelope where
  nonce : Nat
  gasPrice : Nat
  gas : Nat
  recipient : Address
  value : Nat
  data : Bytes
  v : Nat
  r : Nat
  s : Nat
  deriving DecidableEq, Repr

namespace Envelope

/-- The numbers of an envelope have 256 bits. -/
structure Fits (e : Envelope) : Prop where
  nonce : e.nonce < 2 ^ 256
  gasPrice : e.gasPrice < 2 ^ 256
  gas : e.gas < 2 ^ 256
  value : e.value < 2 ^ 256
  v : e.v < 2 ^ 256
  r : e.r < 2 ^ 256
  s : e.s < 2 ^ 256

def items (e : Envelope) : List Rlp :=
  [.nat e.nonce, .nat e.gasPrice, .nat e.gas, .bytes e.recipient.bytes, .nat e.value, .bytes e.data,
   .nat e.v, .nat e.r, .nat e.s]

def encode (e : Envelope) : Bytes := (Rlp.list e.items).encode

def ofItems? : List Rlp → Option Envelope
  | [nonce, gasPrice, gas, recipient, value, data, v, r, s] => do
    some {
      nonce := ← nonce.number?
      gasPrice := ← gasPrice.number?
      gas := ← gas.number?
      recipient := ← recipient.address?
      value := ← value.number?
      data := ← data.bytes?
      v := ← v.number?
      r := ← r.number?
      s := ← s.number? }
  | _ => none

/-- Reads an envelope from the only form that its bytes have. -/
def decode? (raw : Bytes) : Option Envelope :=
  match Rlp.decode? raw with
  | some (.list items) => ofItems? items
  | _ => none

private theorem ofItems?_eq_some {items : List Rlp} {e : Envelope} :
    ofItems? items = some e ↔ e.Fits ∧ items = e.items := by
  constructor
  · intro read
    unfold ofItems? at read
    split at read
    · simp only [Option.bind_eq_bind, Option.bind_eq_some_iff, Rlp.number?_eq_some,
        Rlp.bytes?_eq_some, Rlp.address?_eq_some, Option.some.injEq] at read
      obtain ⟨nonce, ⟨nonceFits, rfl⟩, gasPrice, ⟨gasPriceFits, rfl⟩, gas, ⟨gasFits, rfl⟩,
        recipient, rfl, value, ⟨valueFits, rfl⟩, data, rfl, v, ⟨vFits, rfl⟩, r, ⟨rFits, rfl⟩,
        s, ⟨sFits, rfl⟩, rfl⟩ := read
      exact ⟨⟨nonceFits, gasPriceFits, gasFits, valueFits, vFits, rFits, sFits⟩, rfl⟩
    · cases read
  · rintro ⟨fits, rfl⟩
    have read {n : Nat} (small : n < 2 ^ 256) : (Rlp.nat n).number? = some n :=
      Rlp.number?_eq_some.2 ⟨small, rfl⟩
    have recipient : (Rlp.bytes e.recipient.bytes).address? = some e.recipient :=
      Rlp.address?_eq_some.2 rfl
    simp only [items, ofItems?, read fits.nonce, read fits.gasPrice, read fits.gas,
      read fits.value, read fits.v, read fits.r, read fits.s, recipient, Rlp.bytes?]
    rfl

private theorem decode?_eq_some_iff {raw : Bytes} {e : Envelope}
    (small : raw.length < Rlp.maxLength) :
    decode? raw = some e ↔ e.Fits ∧ raw = e.encode := by
  unfold decode? encode
  constructor
  · intro read
    split at read
    · rename_i items found
      obtain ⟨fits, rfl⟩ := ofItems?_eq_some.1 read
      exact ⟨fits, (Rlp.decode?_eq_some_iff small).1 found⟩
    · cases read
  · intro written
    rw [(Rlp.decode?_eq_some_iff small).2 written.2]
    exact ofItems?_eq_some.2 ⟨written.1, rfl⟩

theorem length_encode_le (e : Envelope) : e.encode.length ≤ e.data.length + 574 := by
  have number := Rlp.length_encode_nat_le
  have nonce := number e.nonce
  have gasPrice := number e.gasPrice
  have gas := number e.gas
  have value := number e.value
  have v := number e.v
  have r := number e.r
  have s := number e.s
  have recipient := Rlp.length_encode_bytes_le e.recipient.bytes
  have data := Rlp.length_encode_bytes_le e.data
  have whole := Rlp.length_encode_list_le e.items
  simp only [items, Rlp.encodeAll, List.length_append, List.length_nil] at whole
  rw [Address.length_bytes] at recipient
  rw [encode, items]
  omega

theorem decode?_encode {e : Envelope} (fits : e.Fits) (size : e.data.length < 2 ^ 63) :
    decode? e.encode = some e := by
  have length := e.length_encode_le
  have small : e.encode.length < Rlp.maxLength := by
    rw [Rlp.maxLength]
    omega
  exact (decode?_eq_some_iff small).2 ⟨fits, rfl⟩

end Envelope

end NameRights
