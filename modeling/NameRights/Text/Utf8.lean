/- NameRights/Text/Utf8
   digest: UTF-8 of a text, and the strict and the lossy reading of bytes as text. -/

import NameRights.Bytes

set_option autoImplicit false
set_option relaxedAutoImplicit false

namespace NameRights.Text

def utf8 (s : String) : Bytes :=
  s.toList.flatMap String.utf8EncodeChar

def isContinuation (b : UInt8) : Bool := 0x80 ≤ b && b ≤ 0xBF

def isPair (b₀ b₁ : UInt8) : Bool := 0xC2 ≤ b₀ && b₀ ≤ 0xDF && isContinuation b₁

/-- Whether two bytes start a character of three or four bytes: neither overlong, nor a
surrogate, nor above the last code point. -/
def startsLong (b₀ b₁ : UInt8) : Bool :=
  if b₀ == 0xE0 then 0xA0 ≤ b₁ && b₁ ≤ 0xBF
  else if b₀ == 0xED then 0x80 ≤ b₁ && b₁ ≤ 0x9F
  else if 0xE1 ≤ b₀ && b₀ ≤ 0xEF then isContinuation b₁
  else if b₀ == 0xF0 then 0x90 ≤ b₁ && b₁ ≤ 0xBF
  else if 0xF1 ≤ b₀ && b₀ ≤ 0xF3 then isContinuation b₁
  else if b₀ == 0xF4 then 0x80 ≤ b₁ && b₁ ≤ 0x8F
  else false

def payload (b : UInt8) : Nat := b.toNat % 64

/-- The characters of a byte string; `none` stands for the longest run of bytes that starts a
character and does not finish it, or for one byte that starts none. -/
def units : Bytes → List (Option Char)
  | [] => []
  | [b₀] => if b₀ < 0x80 then [some (Char.ofNat b₀.toNat)] else [none]
  | b₀ :: b₁ :: r =>
    if b₀ < 0x80 then some (Char.ofNat b₀.toNat) :: units (b₁ :: r)
    else if isPair b₀ b₁ then
      some (Char.ofNat (b₀.toNat % 32 * 64 + payload b₁)) :: units r
    else if startsLong b₀ b₁ then
      match r with
      | [] => [none]
      | b₂ :: r₂ =>
        if isContinuation b₂ then
          if b₀ < 0xF0 then
            some (Char.ofNat ((b₀.toNat % 16 * 64 + payload b₁) * 64 + payload b₂)) :: units r₂
          else
            match r₂ with
            | [] => [none]
            | b₃ :: r₃ =>
              if isContinuation b₃ then
                some (Char.ofNat
                  (((b₀.toNat % 8 * 64 + payload b₁) * 64 + payload b₂) * 64 + payload b₃)) ::
                  units r₃
              else none :: units (b₃ :: r₃)
        else none :: units (b₂ :: r₂)
    else none :: units (b₁ :: r)
termination_by bytes => bytes.length

/-- The text of a byte string, with U+FFFD for every run of bytes that is no character. -/
def lossy (bytes : Bytes) : String :=
  String.ofList ((units bytes).map fun unit => unit.getD (Char.ofNat 0xFFFD))

def ofUtf8? (bytes : Bytes) : Option String :=
  ((units bytes).mapM id).map String.ofList

end NameRights.Text
