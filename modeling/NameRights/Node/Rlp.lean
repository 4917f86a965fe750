/- NameRights/Node/Rlp
   digest: The coding of nested byte strings that transactions are hashed and sent in. -/

import NameRights.Bytes

set_option autoImplicit false
set_option relaxedAutoImplicit false

namespace NameRights

/-- A byte string or a list of items. -/
inductive Rlp where
  | bytes (value : Bytes)
  | list (items : List Rlp)
  deriving Repr, Inhabited

namespace Rlp

def nat (n : Nat) : Rlp := .bytes (Bytes.ofNatMinimal n)

/-- The front of an item: its length, in one byte if it is below 56, and in a byte for the
length's own length and the length otherwise. -/
def front (base : Nat) (length : Nat) : Bytes :=
  if length < 56 then [UInt8.ofNat (base + length)]
  else
    let digits := Bytes.ofNatMinimal length
    UInt8.ofNat (base + 55 + digits.length) :: digits

/-- The coding of a byte string; a small byte stands for itself. -/
def encodeBytes (b : Bytes) : Bytes :=
  match b with
  | [x] => if x < 0x80 then [x] else front 0x80 1 ++ [x]
  | _ => front 0x80 b.length ++ b

mutual

def encode : Rlp → Bytes
  | bytes b => encodeBytes b
  | list items =>
    let body := encodeAll items
    front 0xc0 body.length ++ body

def encodeAll : List Rlp → Bytes
  | [] => []
  | item :: items => encode item ++ encodeAll items

end

/-- A length in `count` bytes; it has no leading zero and is at least 56. -/
def longLength? (count : Nat) (b : Bytes) : Option (Nat × Bytes) :=
  let digits := b.take count
  if digits.length = count ∧ digits.head? ≠ some 0 ∧ 56 ≤ Bytes.toNat digits then
    some (Bytes.toNat digits, b.drop count)
  else none

/-- The front of an item: whether it is a list, the length of its body, and what follows. -/
def front? : Bytes → Option (Bool × Nat × Bytes)
  | [] => none
  | b :: rest =>
    let n := b.toNat
    if n < 0x80 then some (false, 1, b :: rest)
    else if n ≤ 0xb7 then some (false, n - 0x80, rest)
    else if n < 0xc0 then (longLength? (n - 0xb7) rest).map fun (k, rest) => (false, k, rest)
    else if n ≤ 0xf7 then some (true, n - 0xc0, rest)
    else (longLength? (n - 0xf7) rest).map fun (k, rest) => (true, k, rest)

/-- The items that make up a byte string. The fuel bounds the number of fronts. -/
def decodeAll? : Nat → Bytes → Option (List Rlp)
  | _, [] => some []
  | 0, _ :: _ => none
  | fuel + 1, b :: rest => do
    let (isList, length, body) ← front? (b :: rest)
    if body.length < length then none
    else
      let inner := body.take length
      let item ← if isList then (decodeAll? fuel inner).map list
        else if length = 1 ∧ b ≥ 0x80 ∧ inner.head?.getD 0 < 0x80 then none
        else some (bytes inner)
      let items ← decodeAll? fuel (body.drop length)
      some (item :: items)

/-- The one item that a byte string codes, in its only form. -/
def decode? (b : Bytes) : Option Rlp :=
  match decodeAll? b.length b with
  | some [item] => some item
  | _ => none

end Rlp

end NameRights
