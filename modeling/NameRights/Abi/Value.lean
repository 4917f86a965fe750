/- NameRights/Abi/Value
   digest: Values of contract data, the types they belong to, and the text that shows them. -/

import NameRights.Abi.Kind
import NameRights.Session
import NameRights.Text.Quoted
import NameRights.Word

set_option autoImplicit false
set_option relaxedAutoImplicit false

namespace NameRights.Abi

/-- A value of contract data. Numbers with a sign are kept as the word that stands for them. -/
inductive Value where
  | address (value : Address)
  | fixedBytes (value : Bytes)
  | bytes (value : Bytes)
  | int (value : Word)
  | uint (value : Word)
  | bool (value : Bool)
  | string (value : String)
  | fixedArray (items : List Value)
  | array (items : List Value)
  | tuple (fields : List Value)
  deriving Repr, Inhabited

namespace Value

def bracketed (items : List String) : String :=
  "[" ++ String.intercalate ", " items ++ "]"

def showBytes (bytes : Bytes) : String :=
  bracketed (bytes.map fun b => toString b.toNat)

mutual

def shown : Value → String
  | address a => "Address(" ++ a.hex ++ ")"
  | fixedBytes b => "FixedBytes(" ++ showBytes b ++ ")"
  | bytes b => "Bytes(" ++ showBytes b ++ ")"
  | int w => "Int(" ++ w.decimal ++ ")"
  | uint w => "Uint(" ++ w.decimal ++ ")"
  | bool true => "Bool(true)"
  | bool false => "Bool(false)"
  | string s => "String(" ++ Text.quoted s ++ ")"
  | fixedArray items => "FixedArray(" ++ bracketed (showAll items) ++ ")"
  | array items => "Array(" ++ bracketed (showAll items) ++ ")"
  | tuple fields => "Tuple(" ++ bracketed (showAll fields) ++ ")"

def showAll : List Value → List String
  | [] => []
  | v :: vs => v.shown :: showAll vs

end

def showList (values : List Value) : String := bracketed (showAll values)

mutual

/-- Whether a value passes for one of a type. A fixed byte string may be shorter than its type, a
tuple may have fewer fields than its type; the check of a longer tuple has nothing to compare
its last fields with and is abandoned there. -/
def fits : Value → Kind → Except Abort Bool
  | address _, .address => .ok true
  | bytes _, .bytes => .ok true
  | int _, .int _ => .ok true
  | uint _, .uint _ => .ok true
  | bool _, .bool => .ok true
  | string _, .string => .ok true
  | fixedBytes b, .fixedBytes size => .ok (b.length ≤ size)
  | array items, .array kind => allFit items kind
  | fixedArray items, .fixedArray kind size =>
    if size = items.length then allFit items kind else .ok false
  | tuple fields, .tuple kinds => fieldsFit fields kinds
  | _, _ => .ok false

/-- Whether all of several values pass for one type; the first that does not decides. -/
def allFit : List Value → Kind → Except Abort Bool
  | [], _ => .ok true
  | v :: vs, kind => do
    if ← v.fits kind then allFit vs kind else .ok false

def fieldsFit : List Value → List Kind → Except Abort Bool
  | [], _ => .ok true
  | _ :: _, [] => .error .tupleTooLong
  | v :: vs, kind :: kinds => do
    if ← v.fits kind then fieldsFit vs kinds else .ok false

end

/-- Whether there are as many values as types and each passes for its type. -/
def listFits (values : List Value) (kinds : List Kind) : Except Abort Bool :=
  if values.length = kinds.length then fieldsFit values kinds else .ok false

mutual

def isDynamic : Value → Bool
  | bytes _ | string _ | array _ => true
  | fixedArray items | tuple items => anyDynamic items
  | _ => false

def anyDynamic : List Value → Bool
  | [] => false
  | v :: vs => v.isDynamic || anyDynamic vs

end

end Value

end NameRights.Abi
