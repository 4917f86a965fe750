/- NameRights/Abi/Decode
   digest: The reading of contract data at given types. -/

import NameRights.Abi.Value
import NameRights.Text.Utf8

set_option autoImplicit false
set_option relaxedAutoImplicit false

namespace NameRights.Abi

/-- What is wrong with an interface, a name or with data. -/
inductive Fault where
  | invalidData
  | invalidName (name : String)
  | other (text : String)
  deriving Repr, DecidableEq

def Fault.message : Fault → String
  | .invalidData => "Invalid data"
  | .invalidName name => "Invalid name: " ++ name
  | .other text => text

def wordAt (data : Bytes) (offset : Nat) : Except Fault Bytes :=
  match data.slice? offset 32 with
  | some bytes => .ok bytes
  | none => .error .invalidData

def bytesAt (data : Bytes) (offset count : Nat) : Except Fault Bytes :=
  match data.slice? offset count with
  | some bytes => .ok bytes
  | none => .error .invalidData

/-- The word from `offset` on as an offset or a length, which has at most 32 bits. -/
def sizeAt (data : Bytes) (offset : Nat) : Except Fault Nat := do
  let bytes ← wordAt data offset
  if (bytes.take 28).all (· == 0) then .ok bytes.toNat else .error .invalidData

/-- Counted bytes behind the offset that stands at `offset`. -/
def countedAt (data : Bytes) (offset : Nat) : Except Fault Bytes := do
  let start ← sizeAt data offset
  let count ← sizeAt data start
  bytesAt data (start + 32) count

/-- A truth value: a word whose first 31 bytes are zero, true exactly if the last byte is one. -/
def boolAt (data : Bytes) (offset : Nat) : Except Fault Bool := do
  let bytes ← wordAt data offset
  if (bytes.take 31).all (· == 0) then .ok (bytes.toNat == 1) else .error .invalidData

/-- The data of a list and the place in it where the list starts: in place, or behind the offset
that stands at `offset`. -/
def listAt (isDynamic : Bool) (data : Bytes) (offset : Nat) : Except Fault (Bytes × Nat) :=
  if isDynamic then do
    let start ← sizeAt data offset
    if start ≤ data.length then .ok (data.drop start, 0) else .error .invalidData
  else .ok (data, offset)

def repeated (read : Nat → Except Fault (Value × Nat)) :
    Nat → Nat → Except Fault (List Value × Nat)
  | 0, offset => .ok ([], offset)
  | count + 1, offset => do
    let (v, offset) ← read offset
    let (vs, offset) ← repeated read count offset
    .ok (v :: vs, offset)

mutual

/-- Reads the value of a type at `offset`, and tells where the next one starts. -/
def valueAt : Kind → Bytes → Nat → Except Fault (Value × Nat)
  | .address, data, offset => do
    let bytes ← wordAt data offset
    .ok (.address (.ofBytes bytes), offset + 32)
  | .int _, data, offset => do
    let bytes ← wordAt data offset
    .ok (.int (.ofBytes bytes), offset + 32)
  | .uint _, data, offset => do
    let bytes ← wordAt data offset
    .ok (.uint (.ofBytes bytes), offset + 32)
  | .bool, data, offset => do
    let b ← boolAt data offset
    .ok (.bool b, offset + 32)
  | .fixedBytes size, data, offset => do
    let bytes ← bytesAt data offset size
    .ok (.fixedBytes bytes, offset + 32)
  | .bytes, data, offset => do
    let bytes ← countedAt data offset
    .ok (.bytes bytes, offset + 32)
  | .string, data, offset => do
    let bytes ← countedAt data offset
    .ok (.string (Text.lossy bytes), offset + 32)
  | .array kind, data, offset => do
    let start ← sizeAt data offset
    let count ← sizeAt data start
    let (items, _) ← repeated (valueAt kind (data.drop (start + 32))) count 0
    .ok (.array items, offset + 32)
  | .fixedArray kind size, data, offset => do
    let (body, start) ← listAt kind.isDynamic data offset
    let (items, next) ← repeated (valueAt kind body) size start
    .ok (.fixedArray items, if kind.isDynamic then offset + 32 else next)
  | .tuple kinds, data, offset => do
    let (body, start) ← listAt (Kind.anyDynamic kinds) data offset
    let (fields, next) ← valuesAt kinds body start
    .ok (.tuple fields, if Kind.anyDynamic kinds then offset + 32 else next)

def valuesAt : List Kind → Bytes → Nat → Except Fault (List Value × Nat)
  | [], _, offset => .ok ([], offset)
  | kind :: kinds, data, offset => do
    let (v, offset) ← valueAt kind data offset
    let (vs, offset) ← valuesAt kinds data offset
    .ok (v :: vs, offset)

end

def Kind.isEmpty : Kind → Bool
  | .fixedBytes size => size == 0
  | .fixedArray _ size => size == 0
  | _ => false

/-- The complaint about an answer of no bytes where values are expected. -/
def emptyData : Fault := .invalidName
  ("please ensure the contract and method you're calling exist! failed to decode empty bytes. " ++
    "if you're using jsonrpc this is likely due to jsonrpc returning `0x` in case contract or " ++
    "method don't exist")

/-- Reads the values of a list of types. Bytes behind them are not looked at. -/
def decode (kinds : List Kind) (data : Bytes) : Except Fault (List Value) :=
  if data.isEmpty && !kinds.all Kind.isEmpty then .error emptyData
  else (valuesAt kinds data 0).map (·.1)

end NameRights.Abi
