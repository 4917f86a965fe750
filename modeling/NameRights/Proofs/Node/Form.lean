/- NameRights/Proofs/Node/Form
   digest: Quantities, hashes, addresses, byte strings and whole logs are read back from their
   JSON forms. -/

import NameRights.Node.Form
import NameRights.Proofs.Text.Numeral
import NameRights.Proofs.Word

set_option autoImplicit false
set_option relaxedAutoImplicit false

namespace NameRights

namespace Hex

open Text (AreDigits)

variable {cs : List Char} {bytes : Bytes} {n : Nat}

private theorem exists_lenient (digits : AreDigits 16 cs n) :
    ∃ bytes, lenient 0 cs = .ok bytes ∧ bytes.toNat = n := by
  rw [lenient]
  split
  · rename_i odd
    cases digits with
    | nil => cases odd
    | @cons c d n cs first rest =>
      have even : ('0' :: c :: cs).length % 2 = 0 := by
        simp only [List.length_cons] at odd ⊢
        omega
      have whole := Text.areDigits_zero_cons_iff.2 (.cons first rest)
      obtain ⟨bytes, spelled⟩ := exists_spells whole even
      refine ⟨bytes, ?_, spelled.areDigits.unique (by decide) whole⟩
      cases spelled with
      | cons high low rest' =>
        cases high
        simp only [lenientFrom, isBlank_of_digit low, Bool.false_eq_true, if_false, low,
          lenientFrom_spelled rest', Except.map]
        rfl
  · rename_i even
    obtain ⟨bytes, spelled⟩ := exists_spells digits (by omega)
    exact ⟨bytes, lenientFrom_spelled spelled 0, spelled.areDigits.unique (by decide) digits⟩

end Hex

namespace Form

private theorem digitsOf_text (b : Bytes) : digitsOf (Hex.text b) = Hex.digits b := by
  rw [digitsOf, Hex.text, String.toList_ofList]
  rfl

private theorem exactBytes?_text (b : Bytes) :
    exactBytes? b.length (.text (Hex.text b)) = some b := by
  have size : (Hex.digits b).length = 2 * b.length := Hex.length_digits b
  have whole : (Hex.lenient 0 (Hex.digits b)).toOption = some b := by
    rw [Hex.lenient_digits]
    rfl
  simp only [exactBytes?, Json.text?, bind, Option.bind, digitsOf_text, size, if_true, whole,
    Nat.sub_self, Bytes.zeros, List.replicate_zero, List.append_nil]

theorem hash?_ofHash (h : Hash) : hash? (ofHash h) = some h := by
  have read := exactBytes?_text h.bytes
  rw [Hash.length_bytes] at read
  rw [hash?, ofHash, Hash.hex, read, Option.map_some, Hash.ofBytes_bytes]

theorem address?_ofAddress (a : Address) : address? (ofAddress a) = some a := by
  have read := exactBytes?_text a.bytes
  rw [Address.length_bytes] at read
  rw [address?, ofAddress, Address.hex, read, Option.map_some, Address.ofBytes_bytes]

private theorem bytes?_ofBytes (b : Bytes) : bytes? (ofBytes b) = some b := by
  have marked : Hex.stripMark? (Hex.text b).toList = some (Hex.digits b) := by
    rw [Hex.text, String.toList_ofList]
    rfl
  simp only [bytes?, ofBytes, Json.text?, bind, Option.bind, marked, Hex.decode_digits,
    Except.toOption]

private theorem quantityBytes?_quantity {n most : Nat} (room : 0 < most) (small : n < 16 ^ most) :
    ∃ bytes, quantityBytes? most (.text (Hex.quantity n)) = some bytes ∧ bytes.toNat = n := by
  have written : digitsOf (Hex.quantity n) = Nat.toDigits 16 n := by
    rw [digitsOf, Hex.quantity, String.toList_ofList, Hex.minimalDigits_eq, List.append_nil]
    rfl
  have size : 0 < (Nat.toDigits 16 n).length ∧ (Nat.toDigits 16 n).length ≤ most :=
    ⟨Nat.length_toDigits_pos, (Nat.length_toDigits_le_iff (by decide) room).2 small⟩
  obtain ⟨bytes, read, value⟩ :=
    Hex.exists_lenient (Text.areDigits_toDigits (by decide) (by decide) n)
  refine ⟨bytes, ?_, value⟩
  simp only [quantityBytes?, Json.text?, bind, Option.bind, written, if_pos size, read,
    Except.toOption]

private theorem word?_ofWord (w : Word) : word? (ofWord w) = some w := by
  have small : w.toNat < 16 ^ 64 := w.isLt
  obtain ⟨bytes, read, value⟩ := quantityBytes?_quantity (by decide) small
  rw [word?, ofWord, Word.quantity, read, Option.map_some, Word.ofBytes, value, BitVec.ofNat_toNat,
    BitVec.setWidth_eq]

private theorem count?_ofCount (n : Count) : count? (ofCount n) = some n := by
  have small : n.toNat < 16 ^ 16 := n.isLt
  obtain ⟨bytes, read, value⟩ := quantityBytes?_quantity (by decide) small
  rw [count?, ofCount, read, Option.map_some, value, BitVec.ofNat_toNat, BitVec.setWidth_eq]

section Containers

variable {α : Type} {read : Json → Option α} {write : α → Json}

theorem list?_map (back : ∀ a, read (write a) = some a) (items : List α) :
    list? read (.list (items.map write)) = some items := by
  simp only [list?, Json.list?, bind, Option.bind]
  induction items with
  | nil => rfl
  | cons a items ih =>
    rw [List.map_cons, List.mapM_cons, back, ih]
    rfl

private theorem nullable?_ofOption (back : ∀ a, read (write a) = some a)
    (present : ∀ a, (write a).isNull = false) (x : Option α) :
    nullable? read (.ofOption write x) = some x := by
  cases x with
  | none => rfl
  | some a => simp only [Json.ofOption, nullable?, present, Bool.false_eq_true, if_false, back,
      Option.map_some]

end Containers

theorem log?_ofLog (log : Log) : log? (ofLog log) = some log := by
  have hashes := list?_map hash?_ofHash
  have hash := nullable?_ofOption hash?_ofHash fun _ => rfl
  have count := nullable?_ofOption count?_ofCount fun _ => rfl
  have word := nullable?_ofOption word?_ofWord fun _ => rfl
  have text : ∀ x, nullable? Json.text? (.ofOption .text x) = some x :=
    nullable?_ofOption (fun _ => rfl) fun _ => rfl
  have bool : ∀ x, nullable? Json.bool? (.ofOption .bool x) = some x :=
    nullable?_ofOption (fun _ => rfl) fun _ => rfl
  simp [log?, ofLog, required?, Json.field?, field?, Json.field, address?_ofAddress,
    bytes?_ofBytes, hashes, hash, count, word, text, bool]

end Form

end NameRights
