/- NameRights/Text/Quoted
   digest: Texts and characters between quotes, with escapes for what cannot be shown. -/

import NameRights.Hex
import NameRights.Text.Unprintable

set_option autoImplicit false
set_option relaxedAutoImplicit false

namespace NameRights.Text

/-- How a character stands between two marks `mark`: control characters by their short names, the
mark and the backslash behind a backslash, and what has no shape by its code point. -/
def escape (mark : Char) (c : Char) : List Char :=
  if c = '\x00' then ['\\', '0']
  else if c = '\t' then ['\\', 't']
  else if c = '\r' then ['\\', 'r']
  else if c = '\n' then ['\\', 'n']
  else if c = '\\' ∨ c = mark then ['\\', c]
  else if c.toNat < 32 ∨ c.toNat = 127 ∨ (c.toNat > 127 ∧ isUnprintable c) then
    '\\' :: 'u' :: '\x7b' :: Hex.minimalDigits c.toNat ['\x7d']
  else [c]

def quoted (s : String) : String :=
  String.ofList ('"' :: s.toList.flatMap (escape '"') ++ ['"'])

def quotedChar (c : Char) : String :=
  String.ofList ('\'' :: escape '\'' c ++ ['\''])

end NameRights.Text
