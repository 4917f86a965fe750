/- NameRights/Crypto/Secp256k1
   digest: The curve secp256k1 and recoverable signatures over it. -/

import NameRights.Crypto.Sha256

set_option autoImplicit false
set_option relaxedAutoImplicit false

namespace NameRights.Secp256k1

def fieldSize : Nat := 0xfffffffffffffffffffffffffffffffffffffffffffffffffffffffefffffc2f

def order : Nat := 0xfffffffffffffffffffffffffffffffebaaedce6af48a03bbfd25e8cd0364141

def powMod (base exponent modulus : Nat) : Nat :=
  if exponent = 0 then 1 % modulus
  else
    let half := powMod (base * base % modulus) (exponent / 2) modulus
    if exponent % 2 = 1 then half * base % modulus else half
termination_by exponent

def inverse (x prime : Nat) : Nat := powMod x (prime - 2) prime

def subMod (x y modulus : Nat) : Nat := (x + modulus - y % modulus) % modulus

/-- A point of the curve: the one at infinity, or one with coordinates. -/
inductive Point where
  | infinity
  | affine (x y : Nat)
  deriving DecidableEq, Repr

def Point.onCurve : Point → Bool
  | infinity => true
  | affine x y => x < fieldSize && y < fieldSize && y * y % fieldSize == (x * x * x + 7) % fieldSize

def generator : Point :=
  .affine 0x79be667ef9dcbbac55a06295ce870b07029bfcdb2dce28d959f2815b16f81798
    0x483ada7726a3c4655da4fbfc0e1108a8fd17b448a68554199c47d08ffb10d4b8

def Point.third (slope x₁ y₁ x₂ : Nat) : Point :=
  let x := subMod (slope * slope) (x₁ + x₂) fieldSize
  .affine x (subMod (slope * subMod x₁ x fieldSize) y₁ fieldSize)

def Point.add : Point → Point → Point
  | infinity, q => q
  | p, infinity => p
  | affine x₁ y₁, affine x₂ y₂ =>
    if x₁ = x₂ then
      if (y₁ + y₂) % fieldSize = 0 then infinity
      else third (3 * x₁ * x₁ * inverse (2 * y₁) fieldSize % fieldSize) x₁ y₁ x₂
    else
      third (subMod y₂ y₁ fieldSize * inverse (subMod x₂ x₁ fieldSize) fieldSize % fieldSize) x₁ y₁ x₂

def Point.mul (k : Nat) (p : Point) : Point :=
  if k = 0 then infinity
  else
    let half := mul (k / 2) (p.add p)
    if k % 2 = 1 then half.add p else half
termination_by k

/-- A signature with the two bits needed to recover the signer: whether the nonce's point has an
odd ordinate, and whether its abscissa was reduced. -/
structure Signature where
  r : Nat
  s : Nat
  recovery : Nat
  deriving DecidableEq, Repr

/-- The signature of a number by a secret with a nonce. Of the two values of `s` the lower is
taken. -/
def signWith (nonce secret message : Nat) : Option Signature :=
  match generator.mul nonce with
  | .infinity => none
  | .affine x y =>
    let r := x % order
    let s := inverse nonce order * (message + r * secret) % order
    if r = 0 ∨ s = 0 then none
    else
      let overflow := if x ≥ order then 2 else 0
      if s > order / 2 then some ⟨r, order - s, (y + 1) % 2 + overflow⟩
      else some ⟨r, s, y % 2 + overflow⟩

/-- The source of nonces: the key of its codes, and the nonce last drawn. -/
structure Nonces where
  key : Bytes
  value : Bytes

def Nonces.next (n : Nonces) : Nonces :=
  let key := Hmac.code n.key (n.value ++ [0])
  ⟨key, Hmac.code key (Hmac.code key n.value)⟩

/-- The signature with the nonce last drawn, if it is a multiple of the generator. -/
def Nonces.signature? (secret message : Nat) (n : Nonces) : Option Signature :=
  let nonce := n.value.toNat
  if 0 < nonce ∧ nonce < order then signWith nonce secret message else none

/-- The first value found in a number of states, each the next one of the one before it. -/
def firstAlong {σ α : Type} (next : σ → σ) (find : σ → Option α) : Nat → σ → Option α
  | 0, _ => none
  | attempts + 1, s =>
    match find s with
    | some a => some a
    | none => firstAlong next find attempts (next s)

/-- The signature of 32 bytes by a secret. The nonces follow from both, so that the same bytes
are signed the same way. -/
def sign (secret : Nat) (message : Bytes) : Option Signature :=
  let seed := Bytes.ofNat 32 secret ++ message
  let value := List.replicate 32 (1 : UInt8)
  let key := Hmac.code (Bytes.zeros 32) (value ++ 0 :: seed)
  let value := Hmac.code key value
  let key := Hmac.code key (value ++ 1 :: seed)
  let value := Hmac.code key value
  firstAlong Nonces.next (Nonces.signature? secret (message.toNat % order)) 128
    ⟨key, Hmac.code key value⟩

/-- The point with an abscissa and an ordinate of the given parity. -/
def Point.ofAbscissa? (x : Nat) (odd : Bool) : Option Point :=
  let y := powMod ((x * x * x + 7) % fieldSize) ((fieldSize + 1) / 4) fieldSize
  let point := Point.affine x (if (y % 2 == 1) == odd then y else (fieldSize - y) % fieldSize)
  if point.onCurve then some point else none

def recover? (message : Bytes) (signature : Signature) : Option Point := do
  let x := signature.r + (if signature.recovery ≥ 2 then order else 0)
  let nonce ← Point.ofAbscissa? x (signature.recovery % 2 == 1)
  let inv := inverse signature.r order
  let first := generator.mul (subMod 0 (message.toNat * inv) order)
  some (first.add (nonce.mul (signature.s * inv % order)))

end NameRights.Secp256k1
