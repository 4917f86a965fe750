/- NameRights/Json/Writer
   digest: JSON text of a value, on one line and without blanks. -/

import NameRights.Json.Basic
import NameRights.Hex

set_option autoImplicit false
set_option relaxedAutoImplicit false

namespace NameRights.Json

/-- A character inside a text: quotes, backslashes and control characters are escaped. -/
def escape (c : Char) : List Char :=
  if c = '"' then ['\\', '"']
  else if c = '\\' then ['\\', '\\']
  else if c = '\n' then ['\\', 'n']
  else if c = '\r' then ['\\', 'r']
  else if c = '\t' then ['\\', 't']
  else if c = '\x08' then ['\\', 'b']
  else if c = '\x0c' then ['\\', 'f']
  else if c.toNat < 32 then
    ['\\', 'u', '0', '0', Hex.digit (c.toNat / 16), Hex.digit (c.toNat % 16)]
  else [c]

def writeText (s : String) : List Char :=
  '"' :: s.toList.flatMap escape ++ ['"']

/-- A number: a whole one by its digits, any other by digits and exponent. -/
def writeNumber : Number → List Char
  | .whole i => (toString i).toList
  | .decimal negative digits exponent =>
    (if negative then ['-'] else []) ++ (toString digits).toList ++ 'e' :: (toString exponent).toList

mutual

def write : Json → List Char
  | .null => ['n', 'u', 'l', 'l']
  | .bool true => ['t', 'r', 'u', 'e']
  | .bool false => ['f', 'a', 'l', 's', 'e']
  | .number n => writeNumber n
  | .text s => writeText s
  | .list items => '[' :: writeItems items
  | .record fields => '\x7b' :: writeFields fields

def writeItems : List Json → List Char
  | [] => [']']
  | [item] => write item ++ [']']
  | item :: items => write item ++ ',' :: writeItems items

def writeFields : List (String × Json) → List Char
  | [] => ['\x7d']
  | [(name, value)] => writeText name ++ ':' :: write value ++ ['\x7d']
  | (name, value) :: fields => writeText name ++ ':' :: write value ++ ',' :: writeFields fields

end

def render (j : Json) : String := String.ofList (write j)

end NameRights.Json
