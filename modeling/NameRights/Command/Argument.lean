/- NameRights/Command/Argument
   digest: Addresses and numbers as they are typed on a command line. -/

import NameRights.Hashing
import NameRights.Log

set_option autoImplicit false
set_option relaxedAutoImplicit false

namespace NameRights

inductive AddressFault where
  | invalidCharacter (c : Char) (index : Nat)
  | length
  deriving Repr, DecidableEq

def AddressFault.message : AddressFault → String
  | .invalidCharacter c index =>
    "Invalid character '" ++ String.singleton c ++ "' at position " ++ toString index
  | .length => "Invalid input length"

/-- Reads the rest of 20 bytes. Blanks are passed over; what follows the last byte is one
character too many, whatever it is. -/
def Address.parseFrom (index : Nat) (bytes : Bytes) (half : Option Nat) :
    List Char → Except AddressFault Bytes
  | [] => if half.isNone ∧ bytes.length = 20 then .ok bytes else .error .length
  | c :: cs =>
    if Hex.isBlank c then parseFrom (index + 1) bytes half cs
    else if bytes.length = 20 then .error .length
    else
      match Hex.digit? c, half with
      | none, _ => .error (.invalidCharacter c index)
      | some d, none => parseFrom (index + 1) bytes (some d) cs
      | some d, some h => parseFrom (index + 1) (bytes ++ [UInt8.ofNat (h * 16 + d)]) none cs

/-- Reads an address. Any number of marks `0x` may stand in front of the digits. -/
def Address.parse (s : String) : Except AddressFault Address :=
  (parseFrom 0 [] none (Hex.stripMarks s.toList)).map .ofBytes

inductive NumberFault where
  | tooManyDigits
  | invalidDigit (c : Char) (index : Nat)
  | notDecimal
  | tooLarge
  deriving Repr, DecidableEq

def NumberFault.message : NumberFault → String
  | .tooManyDigits => "Invalid string length"
  | .invalidDigit c index => (Hex.Fault.invalidCharacter c index).message
  | .notDecimal => "a character is not in the range 0-9"
  | .tooLarge => "the number is too large for the type"

/-- Reads hexadecimal digits behind the mark `0x`. A second mark is passed over, no digits stand
for zero, and a zero is put in front of an odd number of digits. -/
def Word.parseHex (cs : List Char) : Except NumberFault Word :=
  let cs := (Hex.stripMark? cs).getD cs
  let cs := (Text.utf8 (String.ofList cs)).map fun b => Char.ofNat b.toNat
  if cs.length > 64 then .error .tooManyDigits
  else
    match Hex.pairs 0 (if cs.length % 2 = 1 then '0' :: cs else cs) with
    | .ok bytes => .ok (.ofBytes bytes)
    | .error (.invalidCharacter c index) => .error (.invalidDigit c index)
    | .error .oddLength => .error .tooManyDigits

/-- Adds decimal digits to a number, as long as it stays below 256 bits. -/
def Word.parseDigits (n : Nat) : List Char → Except NumberFault Word
  | [] => .ok (BitVec.ofNat 256 n)
  | c :: cs =>
    let n := n * 10 + (c.toNat - 48)
    if n < 2 ^ 256 then parseDigits n cs else .error .tooLarge

/-- Reads a number: hexadecimal behind the mark `0x`, decimal otherwise. -/
def Word.parse (s : String) : Except NumberFault Word :=
  match Hex.stripMark? s.toList with
  | some cs => parseHex cs
  | none => if s.toList.all Char.isDigit then parseDigits 0 s.toList else .error .notDecimal

inductive CountFault where
  | empty
  | invalidDigit
  | tooLarge
  deriving Repr, DecidableEq

def CountFault.message : CountFault → String
  | .empty => "cannot parse integer from empty string"
  | .invalidDigit => "invalid digit found in string"
  | .tooLarge => "number too large to fit in target type"

def Count.parseDigits (n : Nat) : List Char → Except CountFault Count
  | [] => .ok (BitVec.ofNat 64 n)
  | c :: cs =>
    if c.isDigit then
      let n := n * 10 + (c.toNat - 48)
      if n < UInt64.size then parseDigits n cs else .error .tooLarge
    else .error .invalidDigit

/-- Reads a decimal number, which may have a plus sign in front. -/
def Count.parse (s : String) : Except CountFault Count :=
  match s.toList with
  | [] => .error .empty
  | ['+'] => .error .invalidDigit
  | '+' :: cs => parseDigits 0 cs
  | cs => parseDigits 0 cs

end NameRights
