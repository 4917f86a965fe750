/- NameRights/Key/Ring
   digest: A directory of key files, the choice of a key at a prompt, and its unlocking. -/

import NameRights.Key.File
import NameRights.Text.Blank

set_option autoImplicit false
set_option relaxedAutoImplicit false

namespace NameRights

structure KeyDirectory where
  path : String
  entries : Option (List (String × Entry))
  deriving Repr

/-- Paths of key files by address, in ascending order of addresses. -/
abbrev KeyRing := List (Address × String)

namespace KeyRing

/-- Puts a path in its place; a path of the same address is replaced. -/
def insert (address : Address) (path : String) : KeyRing → KeyRing
  | [] => [(address, path)]
  | (a, p) :: ring =>
    if a = address then (address, path) :: ring
    else if Address.le address a then (address, path) :: (a, p) :: ring
    else (a, p) :: insert address path ring

/-- The ring of a list of pairs; of two paths of one address the later counts. -/
def ofList (pairs : List (Address × String)) : KeyRing :=
  pairs.foldl (fun ring (address, path) => insert address path ring) []

def find? (ring : KeyRing) (address : Address) : Option String :=
  (ring.lookup address)

end KeyRing

namespace KeyDirectory

def notFound : String := "No such file or directory (os error 2)"

/-- A name behind a path. A path that is empty or ends in a separator gets no other one. -/
def joinPath (path name : String) : String :=
  let separator := if path.toList.getLast?.all (· == '/') then "" else "/"
  path ++ separator ++ name

def pathOf (dir : KeyDirectory) (name : String) : String := joinPath dir.path name

def entryAt (dir : KeyDirectory) (path : String) : Entry :=
  (((dir.entries.getD []).find? fun (name, _) => dir.pathOf name == path).map (·.2)).getD .missing

/-- The address an entry claims to be for, if it is a key file with an address. -/
def claimedAddress : Entry → Option Bytes
  | .file content => (KeyFile.parse? content).bind KeyFile.address
  | _ => none

/-- Adds entries to a ring. An address that is not 20 bytes long ends the program. -/
def collect (dir : KeyDirectory) : List (String × Entry) → KeyRing → Except Abort KeyRing
  | [], ring => .ok ring
  | (name, entry) :: entries, ring =>
    match claimedAddress entry with
    | none => collect dir entries ring
    | some bytes =>
      match Address.ofBytes? bytes with
      | none => .error .keyFileAddressLength
      | some address => collect dir entries (ring.insert address (dir.pathOf name))

def list (dir : KeyDirectory) : Outcome String KeyRing :=
  match dir.entries with
  | none => .error notFound
  | some entries =>
    match dir.collect entries [] with
    | .ok ring => .ok ring
    | .error reason => .aborted reason

end KeyDirectory

inductive SelectionFault where
  | invalidText
  | endOfInput
  deriving Repr, DecidableEq

def SelectionFault.message : SelectionFault → String
  | .invalidText => "stream did not contain valid UTF-8"
  | .endOfInput => "input closed before a key was selected"

namespace KeyRing

/-- The lines of an input, with their line ends; the last one may lack its own. -/
def splitLines : Bytes → List Bytes
  | [] => []
  | b :: bytes =>
    if b == 10 then [b] :: splitLines bytes
    else
      match splitLines bytes with
      | [] => [[b]]
      | line :: lines => (b :: line) :: lines

/-- The number typed on a line: decimal digits behind an optional plus sign, below 2^64. -/
def typedIndex? (line : String) : Option Nat :=
  let cs := (Text.trim line).toList
  let ds := match cs with
    | '+' :: rest => rest
    | _ => cs
  if ds.isEmpty ∨ ds.any (fun c => !c.isDigit) then none
  else
    let n := Json.valueOfDigits ds
    if n < UInt64.size then some n else none

def menu (ring : KeyRing) : String :=
  String.join (ring.zipIdx.map fun ((address, _), index) =>
    "[" ++ toString index ++ "]: " ++ address.hex ++ "\n") ++ "Selected key: "

/-- Shows the menu and reads a line, until a line holds the number of a key. -/
def selectFrom (ring : KeyRing) : List Bytes → String × Except SelectionFault String
  | [] => (ring.menu, .error .endOfInput)
  | line :: lines =>
    match Text.ofUtf8? line with
    | none => (ring.menu, .error .invalidText)
    | some line =>
      match (typedIndex? line).bind fun index => ring[index]? with
      | some (_, path) => (ring.menu, .ok path)
      | none =>
        let (shown, chosen) := selectFrom ring lines
        (ring.menu ++ shown, chosen)

def select (ring : KeyRing) (input : Bytes) : String × Except SelectionFault String :=
  let (shown, chosen) := ring.selectFrom (splitLines input)
  ("Select key:\n" ++ shown, chosen)

end KeyRing

abbrev PasswordFile := Option Bytes

/-- The password in a file, without the white space around it. -/
def PasswordFile.read (file : PasswordFile) : Except String String :=
  match file with
  | none => .error ("Error reading password file: " ++ KeyDirectory.notFound)
  | some bytes =>
    match Text.ofUtf8? bytes with
    | none => .error "Error reading password file: stream did not contain valid UTF-8"
    | some s => .ok (Text.trim s)

/-- What an operator answers to a prompt at the terminal of the process, or why there is no
answer. The prompt is not part of what the program prints. -/
abbrev Terminal := String → Except String String

def Terminal.absent : Terminal := fun _ => .error "No such device or address (os error 6)"

/-- The password in a file if one is named, else the one typed at the terminal. -/
def readPassword (terminal : Terminal) : Option PasswordFile → Except String String
  | some file => file.read
  | none => (terminal "Password: ").mapError ("Could not read password: " ++ ·)

def KeyRing.choose (ring : KeyRing) (address : Option Address) (input : Bytes) :
    String × Except String String :=
  match address with
  | some a =>
    match ring.find? a with
    | some path => ("", .ok path)
    | none => ("", .error ("No keystore file for " ++ a.hex))
  | none =>
    let (shown, chosen) := ring.select input
    (shown, chosen.mapError fun fault => "Could not select key: " ++ fault.message)

/-- Unlocks the key of an address, or of an account selected at the prompt: what is shown, and
the key. -/
def KeyDirectory.unlock (dir : KeyDirectory) (address : Option Address)
    (password : Option PasswordFile) (input : Bytes) (terminal : Terminal := .absent) :
    String × Outcome String SecretKey :=
  match dir.list with
  | .aborted reason => ("", .aborted reason)
  | .error e => ("", .error ("Could not list accounts: " ++ e))
  | .ok [] => ("", .error ("No keystore files found in " ++ dir.path))
  | .ok ring =>
    let (shown, chosen) := ring.choose address input
    (shown, do
      let path ← Outcome.ofExcept chosen
      let password ← Outcome.ofExcept (readPassword terminal password)
      ((dir.entryAt path).unlock password).mapError (KeyFault.message path))

end NameRights
