/- NameRights/Proofs/Command/Argument
   digest: Addresses, numbers and selectors are read from their digits exactly, and which texts
   without a number are read as one all the same. -/

import NameRights.Proofs.Command.Spelling

set_option autoImplicit false
set_option relaxedAutoImplicit false

namespace NameRights

open Text (AreDigits)
open Hex (Spells)

variable {base d n : Nat} {c : Char} {cs : List Char} {bytes : Bytes}

namespace Hex

private theorem stripMark?_digits (small : base ≤ 16) (digits : AreDigits base cs n) :
    stripMark? cs = none := by
  cases marked : stripMark? cs with
  | none => rfl
  | some rest =>
    obtain rfl := stripMark?_eq_some_iff.1 marked
    have plain := digits.plain small (c := 'x') (by simp)
    exact absurd rfl plain.2

end Hex

namespace Word

section Decimal

private theorem all_isDigit_iff : cs.all Char.isDigit = true ↔ ∃ n, AreDigits 10 cs n := by
  rw [List.all_eq_true]
  constructor
  · intro decimal
    exact Text.exists_areDigits fun c member =>
      ⟨_, Text.isDigit_ten_iff.2 ⟨decimal c member, rfl⟩⟩
  · rintro ⟨n, digits⟩ c member
    obtain ⟨d, digit⟩ := digits.exists_digit member
    exact (Text.isDigit_ten_iff.1 digit).1

/-- Digits are read behind the digits of another number. The number only grows on the way, so it
is too large at the end if it is once. -/
private theorem parseDigits_eq {m : Nat} (digits : AreDigits 10 cs n) (small : m < 2 ^ 256) :
    parseDigits m cs =
      if m * 10 ^ cs.length + n < 2 ^ 256 then .ok (BitVec.ofNat 256 (m * 10 ^ cs.length + n))
      else .error .tooLarge := by
  induction digits generalizing m with
  | nil =>
    rw [List.length_nil, Nat.pow_zero, Nat.mul_one, Nat.add_zero, if_pos small]
    rfl
  | @cons c d n cs first rest ih =>
    obtain ⟨-, value⟩ := Text.isDigit_ten_iff.1 first
    have whole : m * 10 ^ (c :: cs).length + (d * 10 ^ cs.length + n) =
        (m * 10 + d) * 10 ^ cs.length + n := by
      rw [List.length_cons, Nat.pow_succ, Nat.add_mul, Nat.mul_comm (10 ^ cs.length) 10,
        Nat.mul_assoc, Nat.add_assoc]
    rw [whole]
    have step : parseDigits m (c :: cs) =
        if m * 10 + d < 2 ^ 256 then parseDigits (m * 10 + d) cs else .error .tooLarge := by
      rw [← value]
      rfl
    rw [step]
    split
    · rename_i fits
      exact ih fits
    · rename_i large
      have grown : m * 10 + d ≤ (m * 10 + d) * 10 ^ cs.length :=
        Nat.le_mul_of_pos_right _ (Nat.pow_pos (by decide))
      rw [if_neg (by omega)]

private theorem parse_decimal {s : String} (digits : AreDigits 10 s.toList n) :
    parse s = if n < 2 ^ 256 then .ok (BitVec.ofNat 256 n) else .error .tooLarge := by
  have read := parseDigits_eq digits (m := 0) (by decide)
  rw [Nat.zero_mul, Nat.zero_add] at read
  unfold parse
  rw [Hex.stripMark?_digits (by decide) digits]
  simp only [all_isDigit_iff.2 ⟨n, digits⟩, if_true, read]

end Decimal

section Hexadecimal

/-- The digits that are read behind a mark: a second mark is passed over. -/
private def hexDigits (cs : List Char) : List Char := (Hex.stripMark? cs).getD cs

private theorem hexDigits_digits (digits : AreDigits 16 cs n) : hexDigits cs = cs := by
  rw [hexDigits, Hex.stripMark?_digits (Nat.le_refl 16) digits]
  rfl

private def padded (cs : List Char) : List Char := if cs.length % 2 = 1 then '0' :: cs else cs

private theorem areDigits_padded_iff : AreDigits 16 (padded cs) n ↔ AreDigits 16 cs n := by
  unfold padded
  split
  · exact Text.areDigits_zero_cons_iff
  · rfl

private theorem length_padded_even : (padded cs).length % 2 = 0 := by
  unfold padded
  split
  · rw [List.length_cons]
    omega
  · omega

private theorem length_padded_le (short : cs.length ≤ 64) : (padded cs).length ≤ 64 := by
  unfold padded
  split
  · rw [List.length_cons]
    omega
  · exact short

private theorem toNat_ofBytes (size : bytes.length ≤ 32) : (ofBytes bytes).toNat = bytes.toNat := by
  have width : 256 ^ bytes.length ≤ 256 ^ 32 := Nat.pow_le_pow_right (by decide) size
  have small : bytes.toNat < 2 ^ 256 := Nat.lt_of_lt_of_le (Bytes.toNat_lt bytes) width
  rw [ofBytes, BitVec.toNat_ofNat, Nat.mod_eq_of_lt small]

private theorem parseHex_eq (cs : List Char) :
    parseHex cs =
      if (Text.octets (String.ofList (hexDigits cs))).length > 64 then .error .tooManyDigits
      else
        match Hex.pairs 0 (padded (Text.octets (String.ofList (hexDigits cs)))) with
        | .ok bytes => .ok (ofBytes bytes)
        | .error (.invalidCharacter c index) => .error (.invalidDigit c index)
        | .error .oddLength => .error .tooManyDigits := rfl

private theorem parseHex_digits (digits : AreDigits 16 (hexDigits cs) n) :
    parseHex cs =
      if (hexDigits cs).length ≤ 64 then .ok (BitVec.ofNat 256 n) else .error .tooManyDigits := by
  have ascii : Text.octets (String.ofList (hexDigits cs)) = hexDigits cs :=
    Text.octets_of_ascii fun c member => (digits.plain (Nat.le_refl 16) member).1
  obtain ⟨bytes, spelled⟩ :=
    Hex.exists_spells (areDigits_padded_iff.2 digits) length_padded_even
  have value := (areDigits_padded_iff.1 spelled.areDigits).unique (Nat.le_refl 16) digits
  rw [parseHex_eq, ascii, Hex.pairs_eq_ok.2 spelled]
  by_cases short : (hexDigits cs).length ≤ 64
  · rw [if_pos short, if_neg (Nat.not_lt.2 short), ← value]
    rfl
  · rw [if_neg short, if_pos (Nat.lt_of_not_le short)]

private theorem areDigits_of_parseHex {w : Word} (read : parseHex cs = .ok w) :
    (hexDigits cs).length ≤ 64 ∧ AreDigits 16 (hexDigits cs) w.toNat := by
  rw [parseHex_eq] at read
  split at read
  · cases read
  · rename_i short
    split at read
    · rename_i bytes pairs
      cases read
      have short := Nat.le_of_not_lt short
      have spelled := Hex.pairs_eq_ok.1 pairs
      have digits := areDigits_padded_iff.1 spelled.areDigits
      have ascii := Text.eq_of_octets_ascii fun c member =>
        (digits.plain (Nat.le_refl 16) member).1
      have size : bytes.length ≤ 32 := by
        have whole := spelled.length_eq
        have bound := length_padded_le short
        omega
      rw [ascii] at short digits
      rw [toNat_ofBytes size]
      exact ⟨short, digits⟩
    · cases read
    · cases read

private theorem parse_marked {s t : String} (marked : s.toList = '0' :: 'x' :: t.toList) :
    parse s = parseHex t.toList := by
  unfold parse
  rw [marked]
  rfl

private theorem parse_hex {s : String} (digits : AreDigits 16 s.toList n) :
    parse ("0x" ++ s) =
      if s.length ≤ 64 then .ok (BitVec.ofNat 256 n) else .error .tooManyDigits := by
  have same := hexDigits_digits digits
  have stripped : AreDigits 16 (hexDigits s.toList) n := same.symm ▸ digits
  have read := parseHex_digits stripped
  rw [same, String.length_toList] at read
  rw [parse_marked (Hex.toList_marked s), read]

end Hexadecimal

end Word

namespace Address

private theorem parse_spelled {s : String} (spelled : Spells s.toList bytes)
    (size : bytes.length = 20) :
    parse s = .ok (ofBytes bytes) ∧ parse ("0x" ++ s) = .ok (ofBytes bytes) := by
  have typed := Hex.isTyped_of_spells spelled
  rw [← bytes_ofBytes size] at typed
  exact ⟨parse_eq_ok.2 (Or.inl typed.1), parse_eq_ok.2 (Or.inl typed.2)⟩

end Address

namespace Selector

private theorem parse_spelled {s : String} (spelled : Spells s.toList bytes)
    (size : bytes.length = 4) :
    parse s = .ok (ofBytes bytes) ∧ parse ("0x" ++ s) = .ok (ofBytes bytes) := by
  have typed := Hex.isTyped_of_spells spelled
  rw [← bytes_ofBytes size] at typed
  exact ⟨parse_eq_ok.2 (Or.inl typed.1), parse_eq_ok.2 (Or.inl typed.2)⟩

end Selector

/-! What is written is read back. -/

namespace Hex

private theorem text_eq (bytes : Bytes) : text bytes = "0x" ++ String.ofList (digits bytes) := by
  apply String.toList_inj.1
  rw [toList_marked, text, String.toList_ofList, String.toList_ofList]

private theorem quantity_eq (n : Nat) : quantity n = "0x" ++ String.ofList (Nat.toDigits 16 n) := by
  apply String.toList_inj.1
  rw [toList_marked, quantity, String.toList_ofList, String.toList_ofList, minimalDigits_eq,
    List.append_nil]

end Hex

private theorem Word.parse_quantity (w : Word) : parse w.quantity = .ok w := by
  have digits : AreDigits 16 (Nat.toDigits 16 w.toNat) w.toNat :=
    Text.areDigits_toDigits (by decide) (by decide) w.toNat
  rw [← String.toList_ofList (l := Nat.toDigits 16 w.toNat)] at digits
  have short : (Nat.toDigits 16 w.toNat).length ≤ 64 :=
    (Nat.length_toDigits_le_iff (by decide) (by decide)).2 w.isLt
  rw [quantity, Hex.quantity_eq, parse_hex digits, String.length_ofList, if_pos short,
    BitVec.ofNat_toNat, BitVec.setWidth_eq]

private theorem Word.parse_text (w : Word) : parse (Hex.text w.bytes) = .ok w := by
  have digits := (Hex.spells_digits w.bytes).areDigits
  rw [← String.toList_ofList (l := Hex.digits w.bytes)] at digits
  have short : (Hex.digits w.bytes).length ≤ 64 := by rw [Hex.length_digits, length_bytes]
  rw [Hex.text_eq, parse_hex digits, String.length_ofList, if_pos short]
  exact congrArg Except.ok w.ofBytes_bytes

private theorem Word.parse_decimal_self (w : Word) : parse w.decimal = .ok w := by
  have digits : AreDigits 10 (Nat.toDigits 10 w.toNat) w.toNat :=
    Text.areDigits_toDigits (by decide) (by decide) w.toNat
  rw [← String.toList_ofList (l := Nat.toDigits 10 w.toNat)] at digits
  rw [decimal, Nat.toString_eq_ofList_toDigits, parse_decimal digits, if_pos w.isLt,
    BitVec.ofNat_toNat, BitVec.setWidth_eq]

private theorem Address.parse_hex (a : Address) : parse a.hex = .ok a := by
  have spelled := Hex.spells_digits a.bytes
  rw [← String.toList_ofList (l := Hex.digits a.bytes)] at spelled
  rw [hex, Hex.text_eq, (parse_spelled spelled a.length_bytes).2, ofBytes_bytes]

private theorem Selector.parse_hex (s : Selector) : parse s.hex = .ok s := by
  have spelled := Hex.spells_digits s.bytes
  rw [← String.toList_ofList (l := Hex.digits s.bytes)] at spelled
  rw [hex, Hex.text_eq, (parse_spelled spelled s.length_bytes).2, ofBytes_bytes]

private theorem exists_spelled {s : String} (size : Nat) (digits : AreDigits 16 s.toList n)
    (length : s.length = 2 * size) : ∃ bytes, Spells s.toList bytes ∧ bytes.length = size := by
  have even : s.toList.length % 2 = 0 := by
    rw [String.length_toList]
    omega
  obtain ⟨bytes, spelled⟩ := Hex.exists_spells digits even
  have whole := spelled.length_eq
  rw [String.length_toList] at whole
  exact ⟨bytes, spelled, by omega⟩

/-- Well-formed texts of any length and of any case are read as what their digits denote, or
refused as too long: no reader wraps around or cuts off. Each reader undoes the writing of each of
its values. -/
theorem arguments_exact :
    (∀ (s : String) (n : Nat), s ≠ "" → AreDigits 10 s.toList n →
      if n < 2 ^ 256 then ∃ w, Word.parse s = .ok w ∧ w.toNat = n
      else Word.parse s = .error .tooLarge) ∧
    (∀ (s : String) (n : Nat), s ≠ "" → AreDigits 16 s.toList n →
      if s.length ≤ 64 then ∃ w, Word.parse ("0x" ++ s) = .ok w ∧ w.toNat = n
      else Word.parse ("0x" ++ s) = .error .tooManyDigits) ∧
    (∀ (s : String) (n : Nat), s.length = 40 → AreDigits 16 s.toList n →
      ∃ a : Address, Spells s.toList a.bytes ∧
        Address.parse s = .ok a ∧ Address.parse ("0x" ++ s) = .ok a) ∧
    (∀ (s : String) (n : Nat), s.length = 8 → AreDigits 16 s.toList n →
      ∃ f : Selector, Spells s.toList f.bytes ∧
        Selector.parse s = .ok f ∧ Selector.parse ("0x" ++ s) = .ok f) ∧
    (∀ w : Word, Word.parse w.quantity = .ok w ∧ Word.parse (Hex.text w.bytes) = .ok w ∧
      Word.parse w.decimal = .ok w) ∧
    (∀ a : Address, Address.parse a.hex = .ok a) ∧
    ∀ f : Selector, Selector.parse f.hex = .ok f := by
  refine ⟨?decimal, ?hexadecimal, ?address, ?selector,
    fun w => ⟨w.parse_quantity, w.parse_text, w.parse_decimal_self⟩, Address.parse_hex,
    Selector.parse_hex⟩
  case decimal =>
    intro s n _ digits
    rw [Word.parse_decimal digits]
    split
    · rename_i small
      exact ⟨_, rfl, Nat.mod_eq_of_lt small⟩
    · rfl
  case hexadecimal =>
    intro s n _ digits
    rw [Word.parse_hex digits]
    split
    · rename_i short
      have width : 16 ^ s.toList.length ≤ 16 ^ 64 :=
        Nat.pow_le_pow_right (by decide) (String.length_toList.trans_le short)
      exact ⟨_, rfl, Nat.mod_eq_of_lt (Nat.lt_of_lt_of_le digits.lt width)⟩
    · rfl
  case address =>
    intro s n length digits
    obtain ⟨bytes, spelled, size⟩ := exists_spelled 20 digits length
    refine ⟨.ofBytes bytes, ?_, Address.parse_spelled spelled size⟩
    rwa [Address.bytes_ofBytes size]
  case selector =>
    intro s n length digits
    obtain ⟨bytes, spelled, size⟩ := exists_spelled 4 digits length
    refine ⟨.ofBytes bytes, ?_, Selector.parse_spelled spelled size⟩
    rwa [Selector.bytes_ofBytes size]

/-- A number as it is meant to be typed: decimal digits, or hexadecimal ones behind one mark. -/
inductive Word.IsTyped : String → Word → Prop
  | decimal {s : String} {w : Word} (some : s ≠ "") (digits : AreDigits 10 s.toList w.toNat) :
      IsTyped s w
  | hexadecimal {s : String} {w : Word} (some : s ≠ "") (short : s.length ≤ 64)
      (digits : AreDigits 16 s.toList w.toNat) : IsTyped ("0x" ++ s) w

/-- A text that is no number and is read as one all the same: nothing at all, a mark without
digits, or two marks. -/
inductive Word.IsMisread : String → Word → Prop
  | empty : IsMisread "" 0
  | bareMark : IsMisread "0x" 0
  | doubleMark {s : String} {w : Word} (short : s.length ≤ 64)
      (digits : AreDigits 16 s.toList w.toNat) : IsMisread ("0x" ++ ("0x" ++ s)) w

namespace Word

variable {s : String} {w : Word}

private theorem IsTyped.parse_eq (typed : IsTyped s w) : parse s = .ok w := by
  cases typed with
  | decimal some digits =>
    rw [parse_decimal digits, if_pos w.isLt, BitVec.ofNat_toNat, BitVec.setWidth_eq]
  | hexadecimal some short digits =>
    rw [parse_hex digits, if_pos short, BitVec.ofNat_toNat, BitVec.setWidth_eq]

private theorem IsMisread.parse_eq (misread : IsMisread s w) : parse s = .ok w := by
  cases misread with
  | empty => rfl
  | bareMark => rfl
  | @doubleMark s _ short digits =>
    have behind : hexDigits ("0x" ++ s).toList = s.toList := by
      rw [Hex.toList_marked]
      rfl
    rw [parse_marked (Hex.toList_marked ("0x" ++ s)), parseHex_digits (behind.symm ▸ digits), behind,
      String.length_toList, if_pos short, BitVec.ofNat_toNat, BitVec.setWidth_eq]

private theorem eq_zero_of_nil (digits : AreDigits base [] w.toNat) : w = 0 := by
  apply BitVec.eq_of_toNat_eq
  generalize w.toNat = n at digits
  cases digits
  rfl

private theorem typed_of_parseHex (read : parseHex s.toList = .ok w) :
    IsTyped ("0x" ++ s) w ∨ IsMisread ("0x" ++ s) w := by
  obtain ⟨short, digits⟩ := areDigits_of_parseHex read
  unfold hexDigits at short digits
  cases marked : Hex.stripMark? s.toList with
  | none =>
    rw [marked, Option.getD_none] at short digits
    rw [String.length_toList] at short
    by_cases empty : s = ""
    · subst empty
      rw [eq_zero_of_nil digits]
      exact Or.inr .bareMark
    · exact Or.inl (.hexadecimal empty short digits)
  | some rest =>
    rw [marked, Option.getD_some] at short digits
    have whole : s = "0x" ++ String.ofList rest := by
      apply String.toList_inj.1
      rw [Hex.toList_marked, Hex.stripMark?_eq_some_iff.1 marked, String.toList_ofList]
    rw [whole]
    exact Or.inr (.doubleMark (by rwa [String.length_ofList]) (by rwa [String.toList_ofList]))

private theorem typed_of_parse (read : parse s = .ok w) : IsTyped s w ∨ IsMisread s w := by
  unfold parse at read
  split at read
  · rename_i cs marked
    have whole : s = "0x" ++ String.ofList cs := by
      apply String.toList_inj.1
      rw [Hex.toList_marked, String.toList_ofList, Hex.stripMark?_eq_some_iff.1 marked]
    rw [whole]
    exact typed_of_parseHex (by rwa [String.toList_ofList])
  · split at read
    · rename_i unmarked decimal
      obtain ⟨n, digits⟩ := all_isDigit_iff.1 decimal
      rw [parseDigits_eq digits (by decide), Nat.zero_mul, Nat.zero_add] at read
      split at read
      · rename_i small
        cases read
        have value : (BitVec.ofNat 256 n).toNat = n := Nat.mod_eq_of_lt small
        rw [← value] at digits
        by_cases empty : s = ""
        · subst empty
          rw [eq_zero_of_nil digits]
          exact Or.inr .empty
        · exact Or.inl (.decimal empty digits)
      · cases read
    · cases read

private theorem IsTyped.shape (typed : IsTyped s w) :
    s.toList ≠ [] ∧ ∀ rest, s.toList = '0' :: 'x' :: rest →
      rest ≠ [] ∧ Hex.stripMark? rest = none := by
  cases typed with
  | decimal some digits =>
    refine ⟨mt String.toList_eq_nil_iff.1 some, fun rest marked => ?_⟩
    have unmarked := Hex.stripMark?_digits (by decide) digits
    rw [marked] at unmarked
    cases unmarked
  | @hexadecimal t _ some short digits =>
    rw [Hex.toList_marked]
    refine ⟨List.cons_ne_nil _ _, fun rest marked => ?_⟩
    obtain rfl : t.toList = rest := List.tail_eq_of_cons_eq (List.tail_eq_of_cons_eq marked)
    exact ⟨mt String.toList_eq_nil_iff.1 some, Hex.stripMark?_digits (Nat.le_refl 16) digits⟩

private theorem IsMisread.not_isTyped {x : Word} (misread : IsMisread s w) : ¬ IsTyped s x := by
  intro typed
  obtain ⟨some, behind⟩ := typed.shape
  cases misread with
  | empty => exact some rfl
  | bareMark => exact (behind [] rfl).1 rfl
  | @doubleMark t _ short digits =>
    have single := (behind _ (Hex.toList_marked _)).2
    rw [Hex.toList_marked] at single
    cases single

/-- What is read as a number is one as it is meant to be typed, with its value, except for the
misread texts, of which none is. -/
theorem parse_eq_ok_iff (s : String) (w : Word) :
    (parse s = .ok w ↔ IsTyped s w ∨ IsMisread s w) ∧ ¬ (IsMisread s w ∧ ∃ x, IsTyped s x) := by
  refine ⟨⟨typed_of_parse, ?_⟩, ?_⟩
  · rintro (typed | misread)
    · exact typed.parse_eq
    · exact misread.parse_eq
  · rintro ⟨misread, x, typed⟩
    exact misread.not_isTyped typed

end Word

end NameRights
