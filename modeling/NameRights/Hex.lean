/- NameRights/Hex
   digest: Hexadecimal text of byte strings and numbers, and the readers of it. -/

import NameRights.Bytes

set_option autoImplicit false
set_option relaxedAutoImplicit false

namespace NameRights.Hex

def digit (n : Nat) : Char :=
  if n < 10 then Char.ofNat (48 + n) else Char.ofNat (87 + n)

def digit? (c : Char) : Option Nat :=
  if '0' ≤ c ∧ c ≤ '9' then some (c.toNat - 48)
  else if 'a' ≤ c ∧ c ≤ 'f' then some (c.toNat - 87)
  else if 'A' ≤ c ∧ c ≤ 'F' then some (c.toNat - 55)
  else none

def digits (bytes : Bytes) : List Char :=
  bytes.flatMap fun b => [digit (b.toNat / 16), digit (b.toNat % 16)]

def text (bytes : Bytes) : String :=
  String.ofList ('0' :: 'x' :: digits bytes)

/-- The fewest digits of a number, at least one, in front of those already written. -/
def minimalDigits (n : Nat) (written : List Char) : List Char :=
  if n < 16 then digit n :: written
  else minimalDigits (n / 16) (digit (n % 16) :: written)
termination_by n

def quantity (n : Nat) : String :=
  String.ofList ('0' :: 'x' :: minimalDigits n [])

/-- The text behind one mark `0x`, if it has one. -/
def stripMark? : List Char → Option (List Char)
  | '0' :: 'x' :: rest => some rest
  | _ => none

/-- The text behind all the marks `0x` it starts with. -/
def stripMarks : List Char → List Char
  | '0' :: 'x' :: rest => stripMarks rest
  | cs => cs

/-- Why a text is no strict hexadecimal byte string. -/
inductive Fault where
  | oddLength
  | invalidCharacter (c : Char) (index : Nat)
  deriving Repr, DecidableEq

/-- Reads pairs of digits, naming the first character that is none with its position. -/
def pairs : Nat → List Char → Except Fault Bytes
  | _, [] => .ok []
  | _, [_] => .error .oddLength
  | index, hi :: lo :: rest =>
    match digit? hi, digit? lo with
    | none, _ => .error (.invalidCharacter hi index)
    | some _, none => .error (.invalidCharacter lo (index + 1))
    | some h, some l =>
      match pairs (index + 2) rest with
      | .ok bytes => .ok (UInt8.ofNat (h * 16 + l) :: bytes)
      | .error fault => .error fault

/-- The strict reader: an even number of digits and nothing else. Oddness is noticed first. -/
def decode (cs : List Char) : Except Fault Bytes :=
  if cs.length % 2 = 1 then .error .oddLength else pairs 0 cs

def isBlank (c : Char) : Bool :=
  c == ' ' || c == '\r' || c == '\n' || c == '\t'

/-- The lenient reader of digits: blanks are passed over, `half` is a digit waiting for its
partner, and a digit left alone at the end is dropped. -/
def lenientFrom (index : Nat) (half : Option Nat) : List Char → Except Fault Bytes
  | [] => .ok []
  | c :: rest =>
    if isBlank c then lenientFrom (index + 1) half rest
    else match digit? c with
      | none => .error (.invalidCharacter c index)
      | some d =>
        match half with
        | none => lenientFrom (index + 1) (some d) rest
        | some h => (lenientFrom (index + 1) none rest).map (UInt8.ofNat (h * 16 + d) :: ·)

/-- The lenient reader: a text of odd length starts with a half byte. -/
def lenient (index : Nat) (cs : List Char) : Except Fault Bytes :=
  lenientFrom index (if cs.length % 2 = 1 then some 0 else none) cs

end NameRights.Hex
