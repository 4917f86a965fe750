/- NameRights/Abi/Kind
   digest: The types of contract data and their canonical text. -/

set_option autoImplicit false
set_option relaxedAutoImplicit false

namespace NameRights.Abi

/-- A type of contract data. Sizes of numbers are in bits, of byte strings in bytes. -/
inductive Kind where
  | address
  | bytes
  | int (size : Nat)
  | uint (size : Nat)
  | bool
  | string
  | array (item : Kind)
  | fixedBytes (size : Nat)
  | fixedArray (item : Kind) (size : Nat)
  | tuple (fields : List Kind)
  deriving Repr, Inhabited

namespace Kind

mutual

def text : Kind → String
  | address => "address"
  | bytes => "bytes"
  | int size => "int" ++ toString size
  | uint size => "uint" ++ toString size
  | bool => "bool"
  | string => "string"
  | array item => item.text ++ "[]"
  | fixedBytes size => "bytes" ++ toString size
  | fixedArray item size => item.text ++ "[" ++ toString size ++ "]"
  | tuple fields => "(" ++ listText fields ++ ")"

/-- The canonical texts of several types, with commas between them. -/
def listText : List Kind → String
  | [] => ""
  | [kind] => kind.text
  | kind :: kinds => kind.text ++ "," ++ listText kinds

end

mutual

/-- Whether values of the type have no fixed length and are encoded behind an offset. -/
def isDynamic : Kind → Bool
  | bytes | string | array _ => true
  | fixedArray item _ => item.isDynamic
  | tuple fields => anyDynamic fields
  | _ => false

def anyDynamic : List Kind → Bool
  | [] => false
  | kind :: kinds => kind.isDynamic || anyDynamic kinds

end

def size? (cs : List Char) : Option Nat :=
  if cs.isEmpty || cs.any fun c => !c.isDigit then none
  else some (cs.foldl (fun n c => n * 10 + (c.toNat - 48)) 0)

def named? (cs : List Char) : Option Kind :=
  match cs with
  | ['a', 'd', 'd', 'r', 'e', 's', 's'] => some address
  | ['b', 'o', 'o', 'l'] => some bool
  | ['s', 't', 'r', 'i', 'n', 'g'] => some string
  | ['b', 'y', 't', 'e', 's'] => some bytes
  | ['i', 'n', 't'] => some (int 256)
  | ['u', 'i', 'n', 't'] => some (uint 256)
  | 'b' :: 'y' :: 't' :: 'e' :: 's' :: rest => (size? rest).map fixedBytes
  | 'i' :: 'n' :: 't' :: rest => (size? rest).map int
  | 'u' :: 'i' :: 'n' :: 't' :: rest => (size? rest).map uint
  | _ => none

def suffixes? : Nat → Kind → List Char → Option (Kind × List Char)
  | 0, _, _ => none
  | fuel + 1, kind, '[' :: rest =>
    let digits := rest.takeWhile (· != ']')
    match rest.dropWhile (· != ']') with
    | _ :: rest =>
      if digits.isEmpty then suffixes? fuel (array kind) rest
      else (size? digits).bind fun size => suffixes? fuel (fixedArray kind size) rest
    | [] => none
  | _ + 1, kind, rest => some (kind, rest)

mutual

/-- The type a text starts with and what follows it. The fuel bounds the work. -/
def parseFrom? : Nat → List Char → Option (Kind × List Char)
  | 0, _ => none
  | fuel + 1, '(' :: rest => do
    let (fields, rest) ← parseFields? fuel rest
    suffixes? (rest.length + 1) (tuple fields) rest
  | _ + 1, cs => do
    let isLetter := fun c : Char => c.isAlphanum
    let kind ← named? (cs.takeWhile isLetter)
    let rest := cs.dropWhile isLetter
    suffixes? (rest.length + 1) kind rest

def parseFields? : Nat → List Char → Option (List Kind × List Char)
  | 0, _ => none
  | _ + 1, ')' :: rest => some ([], rest)
  | fuel + 1, cs => do
    let (kind, rest) ← parseFrom? fuel cs
    match rest with
    | ',' :: rest =>
      let (kinds, rest) ← parseFields? fuel rest
      some (kind :: kinds, rest)
    | ')' :: rest => some ([kind], rest)
    | _ => none

end

def parse? (s : String) : Option Kind :=
  let cs := s.toList
  match parseFrom? (2 * cs.length + 2) cs with
  | some (kind, []) => some kind
  | _ => none

end Kind

end NameRights.Abi
