/- NameRights/Crypto/Scrypt
   digest: Passwords stretched with a demand for memory. -/

import NameRights.Crypto.Sha256

set_option autoImplicit false
set_option relaxedAutoImplicit false

namespace NameRights.Scrypt

def rotate (x : UInt32) (count : UInt32) : UInt32 :=
  (x <<< count) ||| (x >>> (32 - count))

/-- The steps of a double round: target, two sources, and how far their sum turns. -/
def steps : List (Nat × Nat × Nat × UInt32) :=
  [(4, 0, 12, 7), (8, 4, 0, 9), (12, 8, 4, 13), (0, 12, 8, 18),
   (9, 5, 1, 7), (13, 9, 5, 9), (1, 13, 9, 13), (5, 1, 13, 18),
   (14, 10, 6, 7), (2, 14, 10, 9), (6, 2, 14, 13), (10, 6, 2, 18),
   (3, 15, 11, 7), (7, 3, 15, 9), (11, 7, 3, 13), (15, 11, 7, 18),
   (1, 0, 3, 7), (2, 1, 0, 9), (3, 2, 1, 13), (0, 3, 2, 18),
   (6, 5, 4, 7), (7, 6, 5, 9), (4, 7, 6, 13), (5, 4, 7, 18),
   (11, 10, 9, 7), (8, 11, 10, 9), (9, 8, 11, 13), (10, 9, 8, 18),
   (12, 15, 14, 7), (13, 12, 15, 9), (14, 13, 12, 13), (15, 14, 13, 18)]

def doubleRound (x : Array UInt32) : Array UInt32 :=
  steps.foldl (fun x (target, left, right, count) =>
    let turned := rotate (x.getD left 0 + x.getD right 0) count
    x.modify target (· ^^^ turned)) x

def scramble (x : Array UInt32) : Array UInt32 :=
  let y := doubleRound (doubleRound (doubleRound (doubleRound x)))
  Array.zipWith (· + ·) x y

def segment (block : Array UInt32) (start : Nat) : Array UInt32 :=
  block.extract start (start + 16)

/-- Every segment is added to the one before it and scrambled; those at even places come first. -/
def mixBlock (r : Nat) (block : Array UInt32) : Array UInt32 :=
  let (_, even, odd) := Nat.fold (2 * r) (fun i _ (last, even, odd) =>
      let next := scramble (Array.zipWith (· ^^^ ·) last (segment block (16 * i)))
      if i % 2 = 0 then (next, even ++ next, odd) else (next, even, odd ++ next))
    (segment block (16 * (2 * r - 1)), (#[] : Array UInt32), (#[] : Array UInt32))
  even ++ odd

/-- Fills a memory of `n` blocks, then walks through it in an order that the data decide. -/
def fill (r n : Nat) (block : Array UInt32) : Array UInt32 :=
  let (block, memory) := Nat.fold n (fun _ _ (block, memory) =>
    (mixBlock r block, memory.push block)) (block, (#[] : Array (Array UInt32)))
  Nat.fold n (fun _ _ block =>
    let place := (block.getD (16 * (2 * r - 1)) 0).toNat % n
    mixBlock r (Array.zipWith (· ^^^ ·) block (memory.getD place #[]))) block

def words (bytes : Bytes) : Array UInt32 :=
  ((bytes.chunks 4).map fun quad =>
    quad.foldr (fun b acc => (acc <<< 8) ||| b.toUInt32) 0).toArray

def bytesOfWord (w : UInt32) : Bytes :=
  [w.toUInt8, (w >>> 8).toUInt8, (w >>> 16).toUInt8, (w >>> 24).toUInt8]

/-- The demands on time and memory: `2 ^ logN` blocks of `128 r` bytes, `p` times. -/
structure Cost where
  logN : Nat
  r : Nat
  p : Nat

def stretch (password salt : Bytes) (cost : Cost) (length : Nat) : Bytes :=
  let start := Hmac.stretch password salt 1 (cost.p * 128 * cost.r)
  let mixed := (start.chunks (128 * cost.r)).flatMap fun block =>
    (fill cost.r (1 <<< cost.logN) (words block)).toList.flatMap bytesOfWord
  Hmac.stretch password mixed 1 length

end NameRights.Scrypt
