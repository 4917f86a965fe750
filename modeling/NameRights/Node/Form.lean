/- NameRights/Node/Form
   digest: The JSON forms of quantities, hashes, byte strings and logs, written and read. -/

import NameRights.Json.Basic
import NameRights.Log
import NameRights.Text.Utf8

set_option autoImplicit false
set_option relaxedAutoImplicit false

namespace NameRights.Form

/-- The digits of a hexadecimal text, whose mark `0x` may be missing. -/
def digitsOf (s : String) : List Char :=
  (Hex.stripMark? s.toList).getD s.toList

/-- The bytes of a hexadecimal text of at least one and at most `digits` digits. -/
def quantityBytes? (digits : Nat) (j : Json) : Option Bytes := do
  let cs := digitsOf (← j.text?)
  if 0 < cs.length ∧ cs.length ≤ digits then (Hex.lenient 0 cs).toOption else none

/-- The bytes of a hexadecimal text of exactly `size` bytes. -/
def exactBytes? (size : Nat) (j : Json) : Option Bytes := do
  let cs := digitsOf (← j.text?)
  if cs.length = 2 * size then
    let bytes ← (Hex.lenient 0 cs).toOption
    some (bytes ++ Bytes.zeros (size - bytes.length))
  else none

def word? (j : Json) : Option Word := (quantityBytes? 64 j).map Word.ofBytes

def count? (j : Json) : Option Count := (quantityBytes? 16 j).map fun b => BitVec.ofNat 64 b.toNat

def hash? (j : Json) : Option Hash := (exactBytes? 32 j).map Hash.ofBytes

def address? (j : Json) : Option Address := (exactBytes? 20 j).map Address.ofBytes

def bytes? (j : Json) : Option Bytes := do
  let cs ← Hex.stripMark? (← j.text?).toList
  (Hex.decode cs).toOption

def list? {α : Type} (read : Json → Option α) (j : Json) : Option (List α) := do
  (← j.list?).mapM read

def nullable? {α : Type} (read : Json → Option α) (j : Json) : Option (Option α) :=
  if j.isNull then some none else (read j).map some

/-- Reads a field that may be missing or `null`. -/
def field? {α : Type} (read : Json → Option α) (j : Json) (name : String) : Option (Option α) :=
  nullable? read (j.field name)

def required? {α : Type} (read : Json → Option α) (j : Json) (name : String) : Option α := do
  read (← j.field? name)

def log? (j : Json) : Option Log := do
  let address ← required? address? j "address"
  let topics ← required? (list? hash?) j "topics"
  let data ← required? bytes? j "data"
  let blockHash ← field? hash? j "blockHash"
  let blockNumber ← field? count? j "blockNumber"
  let transactionHash ← field? hash? j "transactionHash"
  let transactionIndex ← field? count? j "transactionIndex"
  let logIndex ← field? word? j "logIndex"
  let transactionLogIndex ← field? word? j "transactionLogIndex"
  let logType ← field? Json.text? j "logType"
  let removed ← field? Json.bool? j "removed"
  some { address, topics, data, blockHash, blockNumber, transactionHash, transactionIndex,
         logIndex, transactionLogIndex, logType, removed }

def ofAddress (a : Address) : Json := .text a.hex

def ofHash (h : Hash) : Json := .text h.hex

def ofWord (w : Word) : Json := .text w.quantity

def ofCount (n : Count) : Json := .text (Hex.quantity n.toNat)

def ofBytes (b : Bytes) : Json := .text (Hex.text b)

def ofLog (log : Log) : Json :=
  .record
    [("address", ofAddress log.address),
     ("topics", .list (log.topics.map ofHash)),
     ("data", ofBytes log.data),
     ("blockHash", .ofOption ofHash log.blockHash),
     ("blockNumber", .ofOption ofCount log.blockNumber),
     ("transactionHash", .ofOption ofHash log.transactionHash),
     ("transactionIndex", .ofOption ofCount log.transactionIndex),
     ("logIndex", .ofOption ofWord log.logIndex),
     ("transactionLogIndex", .ofOption ofWord log.transactionLogIndex),
     ("logType", .ofOption .text log.logType),
     ("removed", .ofOption .bool log.removed)]

end NameRights.Form
