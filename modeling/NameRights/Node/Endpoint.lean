/- NameRights/Node/Endpoint
   digest: Whether a text is the address of a node on the network. -/

import NameRights.Hex
import NameRights.Json.Reader

set_option autoImplicit false
set_option relaxedAutoImplicit false

namespace NameRights

/-- Why a text is no network address. -/
inductive EndpointFault where
  | relative
  | emptyHost
  | invalidPort
  | invalidHexadecimalGroups
  | invalidNumber
  | invalidCharacter
  deriving Repr, DecidableEq

def EndpointFault.message : EndpointFault → String
  | .relative => "failed to parse url: relative URL without a base"
  | .emptyHost => "failed to parse url: empty host"
  | .invalidPort => "failed to parse url: invalid port number"
  | .invalidHexadecimalGroups => "failed to parse url: invalid IPv6 address"
  | .invalidNumber => "failed to parse url: invalid IPv4 address"
  | .invalidCharacter => "failed to parse url: invalid domain character"

namespace Endpoint

def hostSchemes : List String := ["http", "https", "ws", "wss", "ftp"]

/-- Whether a character may stand in a scheme behind the first letter. -/
def isSchemeChar (c : Char) : Bool := c.isAlphanum || c == '+' || c == '-' || c == '.'

def scheme? (cs : List Char) : Option (String × List Char) :=
  let name := cs.takeWhile isSchemeChar
  match name, cs.dropWhile isSchemeChar with
  | first :: _, ':' :: rest =>
    if first.isAlpha then some (String.ofList (name.map Char.toLower), rest) else none
  | _, _ => none

def endsHost (c : Char) : Bool := c == '/' || c == '\\' || c == '?' || c == '#'

def isForbidden (c : Char) : Bool :=
  c.toNat ≤ 32 || c.toNat == 127 || "<>@[\\]^|".toList.contains c

def afterUser (cs : List Char) : List Char := (cs.reverse.takeWhile (· != '@')).reverse

def checkPort (cs : List Char) : Except EndpointFault Unit :=
  if cs.all Char.isDigit && Json.valueOfDigits cs < UInt16.size then .ok () else .error .invalidPort

def isNumber (part : List Char) : Bool := !part.isEmpty && part.all Char.isDigit

def checkName (cs : List Char) : Except EndpointFault Unit :=
  if cs.any isForbidden then .error .invalidCharacter
  else
    let parts := cs.splitOn '.'
    let parts := if parts.length > 1 && parts.getLast?.any List.isEmpty then parts.dropLast else parts
    if parts.getLast?.any isNumber then
      if parts.length ≤ 4 && parts.all isNumber &&
          parts.dropLast.all (decide <| Json.valueOfDigits · < 256) &&
          decide (Json.valueOfDigits (parts.getLast?.getD []) < Nat.pow 256 (5 - parts.length)) then .ok ()
      else .error .invalidNumber
    else .ok ()

def checkHost (cs : List Char) : Except EndpointFault Unit :=
  match cs with
  | '[' :: rest =>
    let inside := rest.takeWhile (· != ']')
    let outside := rest.dropWhile (· != ']')
    if outside.isEmpty || inside.isEmpty ||
        inside.any fun c => (Hex.digit? c).isNone && c != ':' && c != '.' then
      .error .invalidHexadecimalGroups
    else checkPort (outside.drop 2)
  | cs =>
    let host := cs.takeWhile (· != ':')
    if host.isEmpty then .error .emptyHost
    else do
      checkName host
      checkPort ((cs.dropWhile (· != ':')).drop 1)

end Endpoint

/-- Checks the address of a node. Blanks around it are passed over. -/
def Endpoint.check (s : String) : Except EndpointFault Unit :=
  let isOuter (c : Char) : Bool := c.toNat ≤ 32
  let cs := ((s.toList.dropWhile isOuter).reverse.dropWhile isOuter).reverse
  match scheme? (cs.filter fun c => c != '\t' && c != '\n' && c != '\r') with
  | none => .error .relative
  | some (scheme, rest) =>
    if hostSchemes.contains scheme then
      checkHost (afterUser ((rest.dropWhile fun c => c == '/' || c == '\\').takeWhile (!endsHost ·)))
    else .ok ()

end NameRights
