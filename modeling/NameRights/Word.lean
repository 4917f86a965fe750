/- NameRights/Word
   digest: Words, addresses, hashes and selectors, with their bytes and their text. -/

import NameRights.Hex

set_option autoImplicit false
set_option relaxedAutoImplicit false

namespace NameRights

abbrev Word := BitVec 256

/-- An account or contract address of 20 bytes. -/
structure Address where
  value : BitVec 160
  deriving DecidableEq, Repr, Inhabited

/-- A hash of 32 bytes: topics, roles, block and transaction hashes. -/
structure Hash where
  value : BitVec 256
  deriving DecidableEq, Repr, Inhabited

/-- The four bytes that name a function or an interface. -/
structure Selector where
  value : BitVec 32
  deriving DecidableEq, Repr, Inhabited

namespace Word

def bytes (w : Word) : Bytes := Bytes.ofNat 32 w.toNat

/-- The word whose digits the bytes are; digits above 256 bits are lost. -/
def ofBytes (bytes : Bytes) : Word := BitVec.ofNat 256 bytes.toNat

def decimal (w : Word) : String := toString w.toNat

def quantity (w : Word) : String := Hex.quantity w.toNat

end Word

namespace Address

def bytes (a : Address) : Bytes := Bytes.ofNat 20 a.value.toNat

def ofBytes (bytes : Bytes) : Address := ⟨BitVec.ofNat 160 bytes.toNat⟩

def ofBytes? (bytes : Bytes) : Option Address :=
  if bytes.length = 20 then some (ofBytes bytes) else none

def replicate (b : UInt8) : Address := ofBytes (List.replicate 20 b)

def hex (a : Address) : String := Hex.text a.bytes

def zero : Address := ⟨0⟩

/-- The order of addresses as numbers, which is the order of their bytes. -/
def le (a b : Address) : Bool := a.value.toNat ≤ b.value.toNat

end Address

namespace Hash

def bytes (h : Hash) : Bytes := Bytes.ofNat 32 h.value.toNat

def ofBytes (bytes : Bytes) : Hash := ⟨BitVec.ofNat 256 bytes.toNat⟩

def hex (h : Hash) : String := Hex.text h.bytes

end Hash

namespace Selector

def bytes (s : Selector) : Bytes := Bytes.ofNat 4 s.value.toNat

def ofBytes (bytes : Bytes) : Selector := ⟨BitVec.ofNat 32 bytes.toNat⟩

def hex (s : Selector) : String := Hex.text s.bytes

end Selector

end NameRights
