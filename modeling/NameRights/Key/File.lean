/- NameRights/Key/File
   digest: Files that hold a secret key under a password. -/

import NameRights.Crypto.Aes
import NameRights.Crypto.Scrypt
import NameRights.Json.Reader
import NameRights.Key.Secret
import NameRights.Session

set_option autoImplicit false
set_option relaxedAutoImplicit false

namespace NameRights

/-- How a password is stretched to a key. -/
inductive Stretching where
  | rounds (count : Nat) (salt : Bytes)
  | memory (n r p : Nat) (salt : Bytes)
  deriving Repr

/-- A key file: the address it claims to be for, and the enciphered secret. -/
structure KeyFile where
  address : Option Bytes
  ciphertext : Bytes
  vector : Bytes
  mac : Bytes
  stretching : Stretching
  deriving Repr

/-- What stands at a path. -/
inductive Entry where
  | missing
  | directory
  | file (content : Bytes)
  deriving Repr, DecidableEq

/-- Why a key file does not give its secret. -/
inductive KeyFault where
  | unopened
  | unreadable
  | undecipherable
  | notSecret
  deriving Repr, DecidableEq

def KeyFault.message (path : String) : KeyFault → String
  | .unopened => "Could not open keystore file `" ++ path ++ "`"
  | .unreadable => "Could not read keystore file `" ++ path ++ "`"
  | .undecipherable => "Could not decrypt keystore file `" ++ path ++ "`"
  | .notSecret => "Keystore file `" ++ path ++ "` does not hold a valid secret key"

namespace KeyFile

def only? (j : Json) (name : String) : Option Json :=
  if j.count name = 1 then j.field? name else none

/-- The bytes of a field: pairs of hexadecimal digits without a mark. -/
def bytes? (j : Json) (name : String) : Option Bytes := do
  (Hex.decode (← (← only? j name).text?).toList).toOption

def nat? (j : Json) (name : String) (bound : Nat) : Option Nat := do
  let n ← (← only? j name).nat?
  if n < bound then some n else none

def stretching? (j : Json) : Option Stretching := do
  let method ← (← only? j "kdf").text?
  let params ← only? j "kdfparams"
  let salt ← bytes? params "salt"
  let _ ← nat? params "dklen" UInt32.size
  if method == "pbkdf2" then do
    let code ← (← only? params "prf").text?
    let count ← nat? params "c" UInt32.size
    if code == "hmac-sha256" then some (.rounds count salt) else none
  else if method == "scrypt" then do
    let n ← nat? params "n" UInt32.size
    let r ← nat? params "r" UInt32.size
    let p ← nat? params "p" UInt32.size
    some (.memory n r p salt)
  else none

/-- The address of a file, which may be missing or `null`. -/
def address? (j : Json) : Option (Option Bytes) :=
  match j.count "address" with
  | 0 => some none
  | _ => do
    let field ← only? j "address"
    if field.isNull then some none else (bytes? j "address").map some

/-- Reads a key file. Unknown fields are passed over, known ones may not be repeated. -/
def ofJson? (j : Json) : Option KeyFile := do
  let _ ← (← only? j "id").text?
  let _ ← nat? j "version" UInt64.size
  let address ← address? j
  let crypto ← only? j "crypto"
  let ciphertext ← bytes? crypto "ciphertext"
  let mac ← bytes? crypto "mac"
  let cipher ← (← only? crypto "cipher").text?
  let vector ← bytes? (← only? crypto "cipherparams") "iv"
  let stretching ← stretching? crypto
  if cipher == "aes-128-ctr" then some { address, ciphertext, vector, mac, stretching } else none

def parse? (content : Bytes) : Option KeyFile := do
  ofJson? (← Json.parse? (← Text.ofUtf8? content))

/-- The 32 bytes a password is stretched to, unless the demands on memory are out of bounds. -/
def stretch (password : Bytes) : Stretching → Option Bytes
  | .rounds count salt => some (Hmac.stretch password salt count 32)
  | .memory n r p salt =>
    let logN := n.log2
    if logN = 0 ∨ r = 0 ∨ p = 0 ∨ logN ≥ 16 * r ∨ p > (UInt32.size - 2) * 32 / (128 * r) then none
    else some (Scrypt.stretch password salt ⟨logN, r, p⟩ 32)

/-- Deciphers the bytes a file holds. A wrong password is noticed by the code over the ciphertext,
which does not cover the vector: one of another length than a block is noticed last. -/
def decipher (file : KeyFile) (password : Bytes) : Outcome KeyFault Bytes :=
  match stretch password file.stretching with
  | none => .error .undecipherable
  | some key =>
    if Keccak.hash (key.drop 16 ++ file.ciphertext) = file.mac then
      if file.vector.length = 16 then
        .ok (Aes.applyCounter (key.take 16) file.vector file.ciphertext)
      else .aborted .keyFileVectorLength
    else .error .undecipherable

def unlock (file : KeyFile) (password : Bytes) : Outcome KeyFault SecretKey := do
  let bytes ← file.decipher password
  match SecretKey.ofBytes? bytes with
  | some key => return key
  | none => .error .notSecret

end KeyFile

def Entry.unlock (entry : Entry) (password : String) : Outcome KeyFault SecretKey :=
  match entry with
  | .missing => .error .unopened
  | .directory => .error .unreadable
  | .file content =>
    match KeyFile.parse? content with
    | none => .error .unreadable
    | some keyFile => keyFile.unlock (Text.utf8 password)

end NameRights
