/- NameRights/Abi/Encode
   digest: The head and tail coding of contract data. -/

import NameRights.Abi.Value
import NameRights.Text.Utf8

set_option autoImplicit false
set_option relaxedAutoImplicit false

namespace NameRights.Abi

def word (n : Nat) : Bytes := Bytes.ofNat 32 n

/-- A value made ready for its place in a list: in place, or behind an offset. -/
inductive Part where
  | inPlace (body : Bytes)
  | behind (body : Bytes)
  deriving Repr

namespace Part

def headLength : Part → Nat
  | inPlace body => body.length
  | behind _ => 32

def tailLength : Part → Nat
  | inPlace _ => 0
  | behind body => body.length

end Part

/-- The head of a list: values in place, and offsets of the others, the first of which is
`offset`. -/
def heads (offset : Nat) : List Part → Bytes
  | [] => []
  | part@(.inPlace body) :: parts => body ++ heads (offset + part.tailLength) parts
  | part@(.behind _) :: parts => word offset ++ heads (offset + part.tailLength) parts

/-- The tail of a list: the values behind offsets, one after the other. -/
def tails : List Part → Bytes
  | [] => []
  | .inPlace _ :: parts => tails parts
  | .behind body :: parts => body ++ tails parts

def joinParts (parts : List Part) : Bytes :=
  heads (parts.foldr (fun part length => part.headLength + length) 0) parts ++ tails parts

def counted (bytes : Bytes) : Bytes := word bytes.length ++ Bytes.padRight bytes

mutual

def part : Value → Part
  | .address a => .inPlace (Bytes.zeros 12 ++ a.bytes)
  | .fixedBytes b => .inPlace (Bytes.padRight b)
  | .bytes b => .behind (counted b)
  | .int w => .inPlace w.bytes
  | .uint w => .inPlace w.bytes
  | .bool b => .inPlace (word b.toNat)
  | .string s => .behind (counted (Text.utf8 s))
  | .array items => .behind (word items.length ++ joinParts (parts items))
  | .fixedArray items =>
    if Value.anyDynamic items then .behind (joinParts (parts items))
    else .inPlace (joinParts (parts items))
  | .tuple fields =>
    if Value.anyDynamic fields then .behind (joinParts (parts fields))
    else .inPlace (joinParts (parts fields))

def parts : List Value → List Part
  | [] => []
  | v :: vs => part v :: parts vs

end

def encode (values : List Value) : Bytes := joinParts (parts values)

end NameRights.Abi
