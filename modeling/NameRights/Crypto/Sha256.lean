/- NameRights/Crypto/Sha256
   digest: The hash SHA-256, its keyed code, and passwords stretched by repeating the code. -/

import NameRights.Bytes

set_option autoImplicit false
set_option relaxedAutoImplicit false

namespace NameRights.Sha256

/-- The eight words of the chain. -/
structure State where
  a : UInt32
  b : UInt32
  c : UInt32
  d : UInt32
  e : UInt32
  f : UInt32
  g : UInt32
  h : UInt32

def initial : State :=
  ⟨0x6a09e667, 0xbb67ae85, 0x3c6ef372, 0xa54ff53a, 0x510e527f, 0x9b05688c, 0x1f83d9ab, 0x5be0cd19⟩

def constants : Array UInt32 :=
  #[0x428a2f98, 0x71374491, 0xb5c0fbcf, 0xe9b5dba5, 0x3956c25b, 0x59f111f1, 0x923f82a4, 0xab1c5ed5,
    0xd807aa98, 0x12835b01, 0x243185be, 0x550c7dc3, 0x72be5d74, 0x80deb1fe, 0x9bdc06a7, 0xc19bf174,
    0xe49b69c1, 0xefbe4786, 0x0fc19dc6, 0x240ca1cc, 0x2de92c6f, 0x4a7484aa, 0x5cb0a9dc, 0x76f988da,
    0x983e5152, 0xa831c66d, 0xb00327c8, 0xbf597fc7, 0xc6e00bf3, 0xd5a79147, 0x06ca6351, 0x14292967,
    0x27b70a85, 0x2e1b2138, 0x4d2c6dfc, 0x53380d13, 0x650a7354, 0x766a0abb, 0x81c2c92e, 0x92722c85,
    0xa2bfe8a1, 0xa81a664b, 0xc24b8b70, 0xc76c51a3, 0xd192e819, 0xd6990624, 0xf40e3585, 0x106aa070,
    0x19a4c116, 0x1e376c08, 0x2748774c, 0x34b0bcb5, 0x391c0cb3, 0x4ed8aa4a, 0x5b9cca4f, 0x682e6ff3,
    0x748f82ee, 0x78a5636f, 0x84c87814, 0x8cc70208, 0x90befffa, 0xa4506ceb, 0xbef9a3f7, 0xc67178f2]

def rotate (x : UInt32) (count : UInt32) : UInt32 :=
  (x >>> count) ||| (x <<< (32 - count))

/-- The sixty-four words that sixteen words of a block extend to. -/
def schedule (block : Array UInt32) : Array UInt32 :=
  Nat.fold 48 (fun i _ w =>
    let x := w.getD (i + 1) 0
    let y := w.getD (i + 14) 0
    let low := rotate x 7 ^^^ rotate x 18 ^^^ (x >>> 3)
    let high := rotate y 17 ^^^ rotate y 19 ^^^ (y >>> 10)
    w.push (w.getD i 0 + low + w.getD (i + 9) 0 + high)) block

def round (s : State) (constant word : UInt32) : State :=
  let high := rotate s.e 6 ^^^ rotate s.e 11 ^^^ rotate s.e 25
  let choice := (s.e &&& s.f) ^^^ ((s.e ^^^ 0xffffffff) &&& s.g)
  let first := s.h + high + choice + constant + word
  let low := rotate s.a 2 ^^^ rotate s.a 13 ^^^ rotate s.a 22
  let majority := (s.a &&& s.b) ^^^ (s.a &&& s.c) ^^^ (s.b &&& s.c)
  ⟨first + low + majority, s.a, s.b, s.c, s.d + first, s.e, s.f, s.g⟩

def compress (s : State) (block : Array UInt32) : State :=
  let w := schedule block
  let t := Nat.fold 64 (fun i _ t => round t (constants.getD i 0) (w.getD i 0)) s
  ⟨s.a + t.a, s.b + t.b, s.c + t.c, s.d + t.d, s.e + t.e, s.f + t.f, s.g + t.g, s.h + t.h⟩

def words (bytes : Bytes) : Array UInt32 :=
  ((bytes.chunks 4).map fun quad =>
    quad.foldl (fun acc b => (acc <<< 8) ||| b.toUInt32) 0).toArray

def bytesOfWord (w : UInt32) : Bytes :=
  [(w >>> 24).toUInt8, (w >>> 16).toUInt8, (w >>> 8).toUInt8, w.toUInt8]

def State.bytes (s : State) : Bytes :=
  [s.a, s.b, s.c, s.d, s.e, s.f, s.g, s.h].flatMap bytesOfWord

/-- The last bytes of a message of `total` bytes, filled up to whole blocks: a one bit, zeros and
the length in bits. -/
def pad (total : Nat) (rest : Bytes) : Bytes :=
  rest ++ 0x80 :: Bytes.zeros ((119 - total % 64) % 64) ++ Bytes.ofNat 8 (8 * total)

/-- The digest of a message whose first `absorbed` bytes are already in the chain. -/
def finish (s : State) (absorbed : Nat) (rest : Bytes) : Bytes :=
  (((pad (absorbed + rest.length) rest).chunks 64).foldl
    (fun s block => compress s (words block)) s).bytes

def hash (message : Bytes) : Bytes := finish initial 0 message

end NameRights.Sha256

namespace NameRights.Hmac

open Sha256

/-- A key as the two chains that have taken it up. -/
structure Key where
  inner : State
  outer : State

def masked (mask : UInt8) (key : Bytes) : Bytes :=
  let short := if key.length > 64 then Sha256.hash key else key
  (short ++ Bytes.zeros (64 - short.length)).map (· ^^^ mask)

def Key.ofBytes (key : Bytes) : Key :=
  ⟨compress initial (words (masked 0x36 key)), compress initial (words (masked 0x5c key))⟩

def Key.code (key : Key) (message : Bytes) : Bytes :=
  finish key.outer 64 (finish key.inner 64 message)

def code (key message : Bytes) : Bytes := (Key.ofBytes key).code message

def repeatCode (key : Key) : Nat → Bytes → Bytes → Bytes
  | 0, _, block => block
  | rounds + 1, last, block =>
    let next := key.code last
    repeatCode key rounds next (List.zipWith (· ^^^ ·) block next)

/-- Block `index` of a stretched password. The first code is always taken. -/
def stretchBlock (key : Key) (salt : Bytes) (rounds index : Nat) : Bytes :=
  let first := key.code (salt ++ Bytes.ofNat 4 index)
  repeatCode key (rounds - 1) first first

def stretch (password salt : Bytes) (rounds length : Nat) : Bytes :=
  let key := Key.ofBytes password
  let blocks := (length + 31) / 32
  ((List.range blocks).flatMap fun i => stretchBlock key salt rounds (i + 1)).take length

end NameRights.Hmac
