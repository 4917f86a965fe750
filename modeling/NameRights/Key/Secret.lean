/- NameRights/Key/Secret
   digest: Secret keys, their addresses and their signatures. -/

import NameRights.Crypto.Secp256k1
import NameRights.Keccak
import NameRights.Text.Utf8
import NameRights.Word

set_option autoImplicit false
set_option relaxedAutoImplicit false

namespace NameRights

open Secp256k1

/-- The address of a public point: the end of the hash of its coordinates. -/
def Address.ofPoint : Point → Address
  | .infinity => .ofBytes (Keccak.hash (Bytes.zeros 64))
  | .affine x y => .ofBytes (Keccak.hash (Bytes.ofNat 32 x ++ Bytes.ofNat 32 y))

/-- A number that multiples of the generator can be taken by. -/
structure SecretKey where
  scalar : Nat
  pos : 0 < scalar
  lt_order : scalar < order

/-- A signature as transactions and messages carry it. -/
structure Signed where
  r : Hash
  s : Hash
  v : Nat
  deriving Repr, DecidableEq

/-- Why nothing was signed. -/
inductive SigningFault where
  | invalidMessage
  deriving Repr, DecidableEq

def SigningFault.message : SigningFault → String
  | .invalidMessage => "Message has to be a non-zero 32-bytes slice."

namespace SecretKey

/-- The key that bytes hold: 32 of them, denoting a number between one and the curve's order. -/
def ofBytes? (bytes : Bytes) : Option SecretKey :=
  if bytes.length = 32 then
    if h : 0 < bytes.toNat ∧ bytes.toNat < order then some ⟨bytes.toNat, h.1, h.2⟩ else none
  else none

def point (key : SecretKey) : Point := generator.mul key.scalar

def address (key : SecretKey) : Address := .ofPoint key.point

/-- The text that stands for a key without giving it away. -/
def shown (key : SecretKey) : String :=
  "PrivateKey \x7b address: " ++ key.address.hex ++ " \x7d"

/-- Signs 32 bytes; `base` is what the parity of the nonce's point is added to. -/
def signBytes (key : SecretKey) (message : Bytes) (base : Nat) : Except SigningFault Signed :=
  if message.length = 32 then
    match Secp256k1.sign key.scalar message with
    | some σ => .ok ⟨.ofBytes (Bytes.ofNat 32 σ.r), .ofBytes (Bytes.ofNat 32 σ.s), σ.recovery + base⟩
    | none => .error .invalidMessage
  else .error .invalidMessage

/-- Signs a hash. With a chain id the signature is bound to that chain. -/
def sign (key : SecretKey) (message : Bytes) (chainId : Option Nat) : Except SigningFault Signed :=
  key.signBytes message (match chainId with
    | some chain => 35 + chain * 2
    | none => 27)

/-- The hash of a message behind the mark that keeps it from being taken for a transaction. -/
def messageHash (message : Bytes) : Bytes :=
  Keccak.hash (Text.utf8 ("\x19Ethereum Signed Message:\n" ++ toString message.length) ++ message)

def signMessage (key : SecretKey) (message : Bytes) : Except SigningFault Signed :=
  key.signBytes (messageHash message) 27

end SecretKey

end NameRights
