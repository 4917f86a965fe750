/- NameRights/Keccak
   digest: The sponge hash Keccak with a digest of 256 bits. -/

import NameRights.Bytes

set_option autoImplicit false
set_option relaxedAutoImplicit false

namespace NameRights.Keccak

abbrev State := Array UInt64

def rate : Nat := 136

def rotate (lane : UInt64) (count : Nat) : UInt64 :=
  if count % 64 = 0 then lane
  else (lane <<< UInt64.ofNat count) ||| (lane >>> UInt64.ofNat (64 - count))

def rotations : Array Nat :=
  #[0, 1, 62, 28, 27, 36, 44, 6, 55, 20, 3, 10, 43, 25, 39, 41, 45, 15, 21, 8, 18, 2, 61, 56, 14]

def roundConstants : List UInt64 :=
  [0x0000000000000001, 0x0000000000008082, 0x800000000000808A, 0x8000000080008000,
   0x000000000000808B, 0x0000000080000001, 0x8000000080008081, 0x8000000000008009,
   0x000000000000008A, 0x0000000000000088, 0x0000000080008009, 0x000000008000000A,
   0x000000008000808B, 0x800000000000008B, 0x8000000000008089, 0x8000000000008003,
   0x8000000000008002, 0x8000000000000080, 0x000000000000800A, 0x800000008000000A,
   0x8000000080008081, 0x8000000000008080, 0x0000000080000001, 0x8000000080008008]

def lane (s : State) (x y : Nat) : UInt64 := s.getD (x % 5 + 5 * (y % 5)) 0

def build (f : Nat → Nat → UInt64) : State :=
  Array.ofFn fun i : Fin 25 => f (i.val % 5) (i.val / 5)

/-- Every lane takes up the parities of two neighbouring columns. -/
def mixColumns (s : State) : State :=
  let parity : Array UInt64 := Array.ofFn fun x : Fin 5 =>
    lane s x 0 ^^^ lane s x 1 ^^^ lane s x 2 ^^^ lane s x 3 ^^^ lane s x 4
  build fun x y =>
    lane s x y ^^^ parity.getD ((x + 4) % 5) 0 ^^^ rotate (parity.getD ((x + 1) % 5) 0) 1

def scatter (s : State) : State :=
  build fun x y =>
    let source := (x + 3 * y) % 5
    rotate (lane s source x) (rotations.getD (source + 5 * x) 0)

def mixRows (s : State) : State :=
  build fun x y => lane s x y ^^^ ((lane s (x + 1) y ^^^ 0xFFFFFFFFFFFFFFFF) &&& lane s (x + 2) y)

def round (s : State) (constant : UInt64) : State :=
  (mixRows (scatter (mixColumns s))).modify 0 (· ^^^ constant)

def permute (s : State) : State := roundConstants.foldl round s

def laneOfBytes (bytes : Bytes) : UInt64 :=
  bytes.foldr (fun b acc => (acc <<< 8) ||| b.toUInt64) 0

def bytesOfLane (l : UInt64) : Bytes :=
  (List.range 8).map fun i => (l >>> UInt64.ofNat (8 * i)).toUInt8

/-- A message filled up to whole blocks: a one bit, zeros, a one bit. -/
def pad (message : Bytes) : Bytes :=
  let missing := rate - message.length % rate
  if missing = 1 then message ++ [0x81]
  else message ++ 0x01 :: Bytes.zeros (missing - 2) ++ [0x80]

def absorb (s : State) (block : Bytes) : State :=
  let lanes := ((Bytes.chunks 8 block).map laneOfBytes).toArray
  permute (build fun x y => lane s x y ^^^ lanes.getD (x + 5 * y) 0)

def hash (message : Bytes) : Bytes :=
  let final := (Bytes.chunks rate (pad message)).foldl absorb (build fun _ _ => 0)
  (final.toList.flatMap bytesOfLane).take 32

end NameRights.Keccak
