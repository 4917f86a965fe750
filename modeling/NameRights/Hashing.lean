/- NameRights/Hashing
   digest: Token ids of names, selectors of functions and topics of events, all hashes of text. -/

import NameRights.Keccak
import NameRights.Text.Utf8
import NameRights.Text.Quoted
import NameRights.Word

set_option autoImplicit false
set_option relaxedAutoImplicit false

namespace NameRights

def Hash.ofText (s : String) : Hash := .ofBytes (Keccak.hash (Text.utf8 s))

/-- The token id of a registered name: the hash of its label as a number. -/
def labelHash (label : String) : Word := (Hash.ofText label).value

/-- The selector of a function with the given canonical signature: the front of its hash. -/
def Selector.ofSignature (signature : String) : Selector :=
  .ofBytes ((Keccak.hash (Text.utf8 signature)).take 4)

def Hash.topic (signature : String) : Hash := .ofText signature

/-- Why a text is no selector. -/
inductive SelectorFault where
  | notHex (text : String) (fault : Hex.Fault)
  | length (count : Nat)
  deriving Repr, DecidableEq

def Hex.Fault.message : Hex.Fault → String
  | .oddLength => "Odd number of digits"
  | .invalidCharacter c index =>
    "Invalid character " ++ Text.quotedChar c ++ " at position " ++ toString index

def SelectorFault.message : SelectorFault → String
  | .notHex text fault => "Invalid hex value `" ++ text ++ "`: " ++ fault.message
  | .length count => "Expected 4 bytes, got " ++ toString count

/-- Reads a selector. Any number of marks `0x` may stand in front; characters and positions are
counted in bytes behind the marks. -/
def Selector.parse (s : String) : Except SelectorFault Selector :=
  let bytes := Text.utf8 (String.ofList (Hex.stripMarks s.toList))
  match Hex.decode (bytes.map fun b => Char.ofNat b.toNat) with
  | .error fault => .error (.notHex s fault)
  | .ok bytes => if bytes.length = 4 then .ok (.ofBytes bytes) else .error (.length bytes.length)

end NameRights
