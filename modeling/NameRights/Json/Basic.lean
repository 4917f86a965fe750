/- NameRights/Json/Basic
   digest: Data of the JSON format: null, truth values, numbers, texts, lists and records. -/

set_option autoImplicit false
set_option relaxedAutoImplicit false

namespace NameRights

/-- A number as it is written: a whole number, or one with a fraction or an exponent, which
denotes `digits` times ten to the `exponent`. -/
inductive Json.Number where
  | whole (value : Int)
  | decimal (negative : Bool) (digits : Nat) (exponent : Int)
  deriving Repr, DecidableEq, Inhabited

/-- A value of the format. A record keeps its fields in order, repeated names included. -/
inductive Json where
  | null
  | bool (value : Bool)
  | number (value : Json.Number)
  | text (value : String)
  | list (items : List Json)
  | record (fields : List (String × Json))
  deriving Repr, Inhabited

namespace Json

def ofInt (value : Int) : Json := .number (.whole value)

def ofNat (value : Nat) : Json := ofInt value

def ofOption {α : Type} (encode : α → Json) : Option α → Json
  | none => .null
  | some a => encode a

/-- The value of a field; of several with one name the last counts. -/
def field? (j : Json) (name : String) : Option Json :=
  match j with
  | .record fields => (fields.reverse.find? (·.1 == name)).map (·.2)
  | _ => none

def field (j : Json) (name : String) : Json := (j.field? name).getD .null

def count (j : Json) (name : String) : Nat :=
  match j with
  | .record fields => fields.countP (·.1 == name)
  | _ => 0

def text? : Json → Option String
  | .text s => some s
  | _ => none

def bool? : Json → Option Bool
  | .bool b => some b
  | _ => none

def list? : Json → Option (List Json)
  | .list items => some items
  | _ => none

def nat? : Json → Option Nat
  | .number (.whole (.ofNat n)) => some n
  | _ => none

def int? : Json → Option Int
  | .number (.whole i) => some i
  | _ => none

def isNull : Json → Bool
  | .null => true
  | _ => false

end Json

end NameRights
