/- NameRights/Abi/Shape
   digest: The types a client reads contract values as, and the values it writes for them. -/

import NameRights.Error

set_option autoImplicit false
set_option relaxedAutoImplicit false

namespace NameRights

/-- One entry of a batch of privilege assignments. -/
structure PrivilegeRecord where
  tokenId : Word
  privilegeId : Word
  user : Address
  expires : Word
  deriving DecidableEq, Repr

namespace Abi

/-- A form a client reads a single value in. -/
inductive Shape : Type → Type where
  | bool : Shape Bool
  | word : Shape Word
  | address : Shape Address
  | hash : Shape Hash
  | text : Shape String
  | bytes : Shape Bytes
  | octets : Shape Bytes
  | selector : Shape Selector
  | short : Shape UInt64
  | value : Shape Value
  | words : Shape (List Word)
  | record : Shape PrivilegeRecord

def mismatch {α : Type} (expected : String) (found : String) : Except ChainError α :=
  .error (.invalidOutput ("Expected " ++ expected ++ ", got " ++ found))

/-- Reads a number, signed or not, as the word that stands for it. -/
def readWord : Value → Except ChainError Word
  | .uint w => .ok w
  | .int w => .ok w
  | v => mismatch "`U256`" v.shown

def readAddress : Value → Except ChainError Address
  | .address a => .ok a
  | v => mismatch "`Address`" v.shown

def readByte : Value → Except ChainError UInt8
  | .uint w => .ok (UInt8.ofNat w.toNat)
  | .int w => .ok (UInt8.ofNat w.toNat)
  | v => mismatch "`u8`" v.shown

end Abi

namespace PrivilegeRecord

open Abi

def ofValue : Value → Except ChainError PrivilegeRecord
  | .tuple [tokenId, privilegeId, user, expires] => do
    let tokenId ← readWord tokenId
    let privilegeId ← readWord privilegeId
    let user ← readAddress user
    let expires ← readWord expires
    .ok ⟨tokenId, privilegeId, user, expires⟩
  | .tuple fields => mismatch "4 privilege record fields" (toString fields.length)
  | v => mismatch "a privilege record tuple" v.shown

def toValue (r : PrivilegeRecord) : Value :=
  .tuple [.uint r.tokenId, .uint r.privilegeId, .address r.user, .uint r.expires]

end PrivilegeRecord

namespace Abi.Shape

def read : {α : Type} → Shape α → Value → Except ChainError α
  | _, bool, .bool b => .ok b
  | _, bool, v => mismatch "`bool`" v.shown
  | _, word, v => readWord v
  | _, address, v => readAddress v
  | _, hash, .fixedBytes b =>
    if b.length = 32 then .ok (.ofBytes b) else mismatch "`H256`" (Value.showBytes b)
  | _, hash, v => mismatch "`H256`" v.shown
  | _, text, .string s => .ok s
  | _, text, v => mismatch "`String`" v.shown
  | _, bytes, .bytes b => .ok b
  | _, bytes, v => mismatch "`Bytes`" v.shown
  | _, octets, .bytes b => .ok b
  | _, octets, .fixedBytes b => .ok b
  | _, octets, .array items => items.mapM readByte
  | _, octets, v => mismatch "`bytes`" v.shown
  | _, selector, .fixedBytes b =>
    if b.length = 4 then .ok (.ofBytes b)
    else mismatch "`FixedBytes(4)`" ("FixedBytes(" ++ toString b.length ++ ")")
  | _, selector, v => mismatch "`FixedBytes(4)`" v.shown
  | _, short, .uint w => .ok (UInt64.ofNat w.toNat)
  | _, short, .int w => .ok (UInt64.ofNat w.toNat)
  | _, short, v => mismatch "`u64`" v.shown
  | _, value, v => .ok v
  | _, words, .array items => items.mapM readWord
  | _, words, .fixedArray items => items.mapM readWord
  | _, words, v => mismatch "`Array`" v.shown
  | _, record, v => PrivilegeRecord.ofValue v

def write : {α : Type} → Shape α → α → Value
  | _, bool, b => .bool b
  | _, word, w => .uint w
  | _, address, a => .address a
  | _, hash, h => .fixedBytes h.bytes
  | _, text, s => .string s
  | _, bytes, b => .bytes b
  | _, octets, b => .bytes b
  | _, selector, s => .fixedBytes s.bytes
  | _, short, n => .uint (BitVec.ofNat 256 n.toNat)
  | _, value, v => v
  | _, words, ws => .array (ws.map .uint)
  | _, record, r => r.toValue

end Abi.Shape

namespace Abi

/-- The form a client reads all outputs of a function in: a single value or a pair. -/
inductive Output : Type → Type 1 where
  | single {α : Type} (shape : Shape α) : Output α
  | pair {α β : Type} (first : Shape α) (second : Shape β) : Output (α × β)

def Output.read : {α : Type} → Output α → List Value → Except ChainError α
  | _, .single shape, [v] => shape.read v
  | _, .single _, vs =>
    .error (.invalidOutput ("Expected single element, got a list: " ++ Value.showList vs))
  | _, .pair first second, [v, w] => do
    let a ← first.read v
    let b ← second.read w
    .ok (a, b)
  | _, .pair _ _, vs =>
    .error (.invalidOutput ("Expected 2 elements, got a list of " ++ toString vs.length ++ ": " ++
      Value.showList vs))

end Abi

end NameRights
