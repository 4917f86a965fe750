/- NameRights/Proofs/Node/RlpRoundTrip
   digest: Coded items are read back, and nothing else is. -/

import NameRights.Node.Rlp
import NameRights.Proofs.Bytes

set_option autoImplicit false
set_option relaxedAutoImplicit false

namespace NameRights.Rlp

/-- The lengths that a front has room for. -/
def maxLength : Nat := 2 ^ 64

section Front

variable {n : Nat}

private theorem word_of_length (small : n < maxLength) : n < 2 ^ 256 :=
  Nat.lt_trans small (by decide)

private theorem length_digits_le (small : n < maxLength) : (Bytes.ofNatMinimal n).length ≤ 8 :=
  Bytes.length_ofNatMinimal_le_of_lt (word_of_length small) small

private theorem length_digits_pos (pos : 0 < n) (small : n < maxLength) :
    0 < (Bytes.ofNatMinimal n).length :=
  List.length_pos_iff.2 (Bytes.ofNatMinimal_ne_nil pos (word_of_length small))

private theorem longLength?_digits (long : 56 ≤ n) (small : n < maxLength) (rest : Bytes) :
    longLength? (Bytes.ofNatMinimal n).length (Bytes.ofNatMinimal n ++ rest) = some (n, rest) := by
  have value := Bytes.toNat_ofNatMinimal (word_of_length small)
  have front := Bytes.head?_ofNatMinimal n
  unfold longLength?
  generalize Bytes.ofNatMinimal n = digits at value front
  simp only [List.take_left, List.drop_left, value]
  exact if_pos ⟨trivial, front, long⟩

private theorem front?_front_bytes (small : n < maxLength) (rest : Bytes) :
    front? (front 0x80 n ++ rest) = some (false, n, rest) := by
  unfold front
  split
  · rename_i short
    have byte : (UInt8.ofNat (0x80 + n)).toNat = 0x80 + n := by
      rw [UInt8.toNat_ofNat']
      omega
    simp only [List.singleton_append, front?, byte]
    rw [if_neg (by omega), if_pos (by omega), Nat.add_sub_cancel_left]
  · rename_i long
    have few := length_digits_le small
    have some := length_digits_pos (by omega) small
    have read := longLength?_digits (by omega) small rest
    generalize Bytes.ofNatMinimal n = digits at few some read
    have byte : (UInt8.ofNat (0x80 + 55 + digits.length)).toNat = 0xb7 + digits.length := by
      rw [UInt8.toNat_ofNat']
      omega
    simp only [List.cons_append, front?, byte]
    rw [if_neg (by omega), if_neg (by omega), if_pos (by omega), Nat.add_sub_cancel_left, read]
    rfl

theorem front?_front_list (small : n < maxLength) (rest : Bytes) :
    front? (front 0xc0 n ++ rest) = some (true, n, rest) := by
  unfold front
  split
  · rename_i short
    have byte : (UInt8.ofNat (0xc0 + n)).toNat = 0xc0 + n := by
      rw [UInt8.toNat_ofNat']
      omega
    simp only [List.singleton_append, front?, byte]
    rw [if_neg (by omega), if_neg (by omega), if_neg (by omega), if_pos (by omega),
      Nat.add_sub_cancel_left]
  · rename_i long
    have few := length_digits_le small
    have some := length_digits_pos (by omega) small
    have read := longLength?_digits (by omega) small rest
    generalize Bytes.ofNatMinimal n = digits at few some read
    have byte : (UInt8.ofNat (0xc0 + 55 + digits.length)).toNat = 0xf7 + digits.length := by
      rw [UInt8.toNat_ofNat']
      omega
    simp only [List.cons_append, front?, byte]
    rw [if_neg (by omega), if_neg (by omega), if_neg (by omega), if_neg (by omega),
      Nat.add_sub_cancel_left, read]
    rfl

end Front

section Announced

variable {k : Nat} {b rest body : Bytes}

private theorem longLength?_eq_some {count : Nat} (few : count ≤ 32)
    (read : longLength? count b = some (k, rest)) :
    b = Bytes.ofNatMinimal k ++ rest ∧ (Bytes.ofNatMinimal k).length = count ∧ 56 ≤ k := by
  unfold longLength? at read
  simp only at read
  split at read
  · rename_i digits
    obtain ⟨size, head, long⟩ := digits
    cases read
    rw [Bytes.ofNatMinimal_toNat head (by rw [size]; exact few)]
    exact ⟨(List.take_append_drop count b).symm, size, long⟩
  · cases read

private theorem front_of_short {base n : Nat} {first : UInt8} (low : base ≤ n)
    (short : n - base < 56) (byte : UInt8.ofNat n = first) : front base (n - base) = [first] := by
  rw [front, if_pos short, Nat.add_sub_cancel' low, byte]

private theorem front_of_long {base n : Nat} {first : UInt8} (big : 56 ≤ k)
    (count : (Bytes.ofNatMinimal k).length = n - (base + 55)) (low : base + 55 ≤ n)
    (byte : UInt8.ofNat n = first) : front base k = first :: Bytes.ofNatMinimal k := by
  unfold front
  rw [if_neg (by omega)]
  simp only [count, Nat.add_sub_cancel' low, byte]

private theorem front?_eq_some {isList : Bool} {first : UInt8} {length : Nat}
    (read : front? (first :: rest) = some (isList, length, body)) :
    (first < 0x80 ∧ isList = false ∧ length = 1 ∧ body = first :: rest) ∨
      (¬ first < 0x80 ∧
        first :: rest = front (if isList then 0xc0 else 0x80) length ++ body) := by
  have byte : UInt8.ofNat first.toNat = first := UInt8.ofNat_toNat
  have small := first.toNat_lt
  have low : first < 0x80 ↔ first.toNat < 0x80 := UInt8.lt_iff_toNat_lt
  rw [low]
  unfold front? at read
  simp only at read
  split at read
  · rename_i plain
    simp only [Option.some.injEq, Prod.mk.injEq] at read
    obtain ⟨rfl, rfl, rfl⟩ := read
    exact Or.inl ⟨plain, rfl, rfl, rfl⟩
  · rename_i marked
    refine Or.inr ⟨marked, ?_⟩
    split at read
    · rename_i short
      simp only [Option.some.injEq, Prod.mk.injEq] at read
      obtain ⟨rfl, rfl, rfl⟩ := read
      change first :: rest = front 0x80 _ ++ rest
      rw [front_of_short (by omega) (by omega) byte, List.singleton_append]
    · split at read
      · obtain ⟨⟨k, tail⟩, found, same⟩ := Option.map_eq_some_iff.1 read
        simp only [Prod.mk.injEq] at same
        obtain ⟨rfl, rfl, rfl⟩ := same
        obtain ⟨split, count, big⟩ := longLength?_eq_some (by omega) found
        change first :: rest = front 0x80 k ++ tail
        rw [front_of_long big count (by omega) byte, split, List.cons_append]
      · split at read
        · simp only [Option.some.injEq, Prod.mk.injEq] at read
          obtain ⟨rfl, rfl, rfl⟩ := read
          change first :: rest = front 0xc0 _ ++ rest
          rw [front_of_short (by omega) (by omega) byte, List.singleton_append]
        · obtain ⟨⟨k, tail⟩, found, same⟩ := Option.map_eq_some_iff.1 read
          simp only [Prod.mk.injEq] at same
          obtain ⟨rfl, rfl, rfl⟩ := same
          obtain ⟨split, count, big⟩ := longLength?_eq_some (by omega) found
          change first :: rest = front 0xc0 k ++ tail
          rw [front_of_long big count (by omega) byte, split, List.cons_append]

end Announced

private theorem encodeBytes_small {x : UInt8} (small : x < 0x80) :
    encodeBytes [x] = [x] := if_pos small

private theorem encodeBytes_eq {b : Bytes} (large : ∀ x, b = [x] → ¬ x < 0x80) :
    encodeBytes b = front 0x80 b.length ++ b := by
  unfold encodeBytes
  split
  · rename_i x
    exact if_neg (large x rfl)
  · rfl

private theorem encodeBytes_cases (b : Bytes) :
    (∃ x, b = [x] ∧ x < 0x80 ∧ encodeBytes b = [x]) ∨
      (∀ x, b = [x] → ¬ x < 0x80) ∧ encodeBytes b = front 0x80 b.length ++ b := by
  by_cases small : ∃ x, b = [x] ∧ x < 0x80
  · obtain ⟨x, rfl, small⟩ := small
    exact Or.inl ⟨x, rfl, small, encodeBytes_small small⟩
  · have large : ∀ x, b = [x] → ¬ x < 0x80 := fun x same below => small ⟨x, same, below⟩
    exact Or.inr ⟨large, encodeBytes_eq large⟩

section Length

private theorem length_front_le (base n : Nat) : (front base n).length ≤ 33 := by
  have few := Bytes.length_ofNatMinimal_le n
  unfold front
  split
  · exact (by decide : 1 ≤ 33)
  · simp only [List.length_cons]
    omega

theorem length_encode_bytes_le (b : Bytes) : (bytes b).encode.length ≤ b.length + 33 := by
  have front := length_front_le 0x80 b.length
  rw [encode]
  rcases encodeBytes_cases b with ⟨x, rfl, -, coded⟩ | ⟨-, coded⟩
  · rw [coded]
    exact Nat.le_add_right _ _
  · rw [coded, List.length_append]
    omega

theorem length_encode_nat_le (n : Nat) : (nat n).encode.length ≤ 65 := by
  have few := Bytes.length_ofNatMinimal_le n
  have coded := length_encode_bytes_le (Bytes.ofNatMinimal n)
  rw [nat]
  omega

theorem length_encode_list_le (items : List Rlp) :
    (list items).encode.length ≤ (encodeAll items).length + 33 := by
  have front := length_front_le 0xc0 (encodeAll items).length
  rw [encode, List.length_append]
  omega

end Length

private theorem front_ne_nil (base n : Nat) : front base n ≠ [] := by
  unfold front
  split <;> exact List.cons_ne_nil _ _

theorem encode_ne_nil (item : Rlp) : item.encode ≠ [] := by
  cases item with
  | bytes b =>
    rw [encode]
    rcases encodeBytes_cases b with ⟨x, -, -, coded⟩ | ⟨-, coded⟩
    · rw [coded]
      exact List.cons_ne_nil _ _
    · rw [coded]
      exact List.append_ne_nil_of_left_ne_nil (front_ne_nil _ _) _
  | list items =>
    rw [encode]
    exact List.append_ne_nil_of_left_ne_nil (front_ne_nil _ _) _

/-- The item that a front announces. The single byte of a byte string has a front only if it is not
small. -/
private def item? (fuel : Nat) (isList : Bool) (first : UInt8) (inner : Bytes) : Option Rlp :=
  if isList then (decodeAll? fuel inner).map list
  else if inner.length = 1 ∧ first ≥ 0x80 ∧ inner.head?.getD 0 < 0x80 then none
  else some (bytes inner)

private theorem decodeAll?_of_front {fuel length : Nat} {first : UInt8} {rest body : Bytes}
    {isList : Bool}
    (read : front? (first :: rest) = some (isList, length, body)) :
    decodeAll? (fuel + 1) (first :: rest) =
      if body.length < length then none
      else (item? fuel isList first (body.take length)).bind fun item =>
        (decodeAll? fuel (body.drop length)).map (item :: ·) := by
  rw [decodeAll?, read]
  change (if body.length < length then none else _) = _
  by_cases short : body.length < length
  · rw [if_pos short, if_pos short]
  · have size : (body.take length).length = length := List.length_take_of_le (by omega)
    rw [if_neg short, if_neg short, item?, size]
    cases isList with
    | true =>
      cases decodeAll? fuel (body.take length) with
      | none => rfl
      | some xs => cases decodeAll? fuel (body.drop length) <;> rfl
    | false =>
      simp only [Bool.false_eq_true, if_false]
      split
      · rfl
      · cases decodeAll? fuel (body.drop length) <;> rfl

private theorem decodeAll?_cons {fuel : Nat} {item : Rlp} {rest : Bytes} {items : List Rlp}
    (small : item.encode.length < maxLength)
    (inner : ∀ xs, item = .list xs → decodeAll? fuel (encodeAll xs) = some xs)
    (others : decodeAll? fuel rest = some items) :
    decodeAll? (fuel + 1) (item.encode ++ rest) = some (item :: items) := by
  obtain ⟨first, tail, split⟩ := List.exists_cons_of_ne_nil (encode_ne_nil item)
  have step (isList : Bool) (b : Bytes)
      (read : front? (item.encode ++ rest) = some (isList, b.length, b ++ rest))
      (made : item? fuel isList first b = some item) :
      decodeAll? (fuel + 1) (item.encode ++ rest) = some (item :: items) := by
    rw [split, List.cons_append] at read ⊢
    rw [decodeAll?_of_front read, if_neg (by rw [List.length_append]; omega), List.take_left,
      List.drop_left, made, others]
    rfl
  cases item with
  | bytes b =>
    rw [encode] at split small step ⊢
    rcases encodeBytes_cases b with ⟨x, rfl, below, coded⟩ | ⟨large, coded⟩
    · have head : x.toNat < 0x80 := UInt8.lt_iff_toNat_lt.1 below
      rw [coded] at split step ⊢
      obtain ⟨rfl, -⟩ := List.cons.inj split
      refine step false [x] ?_ ?_
      · simp only [List.singleton_append, front?, if_pos head]
        rfl
      · have plain : ¬ x ≥ 0x80 := UInt8.not_le.2 below
        simp only [item?, Bool.false_eq_true, if_false, plain, false_and, and_false]
    · have size : b.length < maxLength := by
        rw [coded, List.length_append] at small
        omega
      refine step false b ?_ ?_
      · rw [coded, List.append_assoc]
        exact front?_front_bytes size _
      · simp only [item?, Bool.false_eq_true, if_false]
        refine if_neg ?_
        rintro ⟨single, -, below⟩
        obtain ⟨x, rfl⟩ := List.length_eq_one_iff.1 single
        exact large x rfl below
  | list xs =>
    rw [encode] at split small step ⊢
    have size : (encodeAll xs).length < maxLength := by
      rw [List.length_append] at small
      omega
    refine step true (encodeAll xs) ?_ ?_
    · rw [List.append_assoc]
      exact front?_front_list size _
    · simp only [item?, if_true, inner xs rfl, Option.map_some]

private theorem decodeAll?_encodeAll {fuel : Nat} {items : List Rlp}
    (enough : (encodeAll items).length ≤ fuel) (small : (encodeAll items).length < maxLength) :
    decodeAll? fuel (encodeAll items) = some items := by
  induction fuel generalizing items with
  | zero =>
    cases items with
    | nil => simp [encodeAll, decodeAll?]
    | cons item items =>
      have some := List.length_pos_iff.2 (encode_ne_nil item)
      rw [encodeAll, List.length_append] at enough
      omega
  | succ fuel ih =>
    cases items with
    | nil => simp [encodeAll, decodeAll?]
    | cons item items =>
      have some := List.length_pos_iff.2 (encode_ne_nil item)
      rw [encodeAll, List.length_append] at enough small
      rw [encodeAll]
      refine decodeAll?_cons (by omega) ?_ (ih (by omega) (by omega))
      rintro xs rfl
      have shorter : (encodeAll xs).length < (Rlp.list xs).encode.length := by
        have some := List.length_pos_iff.2 (front_ne_nil 0xc0 (encodeAll xs).length)
        rw [encode, List.length_append]
        omega
      exact ih (by omega) (by omega)

theorem decode?_encode {item : Rlp} (small : item.encode.length < maxLength) :
    decode? item.encode = some item := by
  have alone : encodeAll [item] = item.encode := by rw [encodeAll, encodeAll, List.append_nil]
  have read : decodeAll? item.encode.length (encodeAll [item]) = some [item] :=
    decodeAll?_encodeAll (Nat.le_of_eq (congrArg _ alone)) (by rwa [alone])
  rw [alone] at read
  rw [decode?, read]

private theorem encode_of_item? {fuel length : Nat} {first : UInt8} {rest body : Bytes}
    {isList : Bool}
    {item : Rlp} (announced : front? (first :: rest) = some (isList, length, body))
    (enough : length ≤ body.length) (made : item? fuel isList first (body.take length) = some item)
    (inner : ∀ xs, decodeAll? fuel (body.take length) = some xs → encodeAll xs = body.take length) :
    item.encode ++ body.drop length = first :: rest := by
  have size : (body.take length).length = length := List.length_take_of_le enough
  have whole : body.take length ++ body.drop length = body := List.take_append_drop length body
  unfold item? at made
  rcases front?_eq_some announced with ⟨small, rfl, rfl, rfl⟩ | ⟨large, split⟩
  · have plain : ¬ first ≥ 0x80 := UInt8.not_le.2 small
    simp only [Bool.false_eq_true, if_false, plain, false_and, and_false, Option.some.injEq] at made
    rw [← made, encode]
    exact congrArg (· ++ rest) (encodeBytes_small small)
  · generalize body.take length = piece at *
    cases isList with
    | true =>
      obtain ⟨xs, found, rfl⟩ := Option.map_eq_some_iff.1 made
      rw [encode, inner xs found, size, List.append_assoc, whole]
      exact split.symm
    | false =>
      simp only [Bool.false_eq_true, if_false] at made
      split at made
      · cases made
      · rename_i single
        cases made
        rcases encodeBytes_cases piece with ⟨x, rfl, below, -⟩ | ⟨-, coded⟩
        · exact absurd ⟨rfl, UInt8.not_lt.1 large, below⟩ single
        · rw [encode, coded, size, List.append_assoc, whole]
          exact split.symm

private theorem encodeAll_of_decodeAll? {fuel : Nat} {b : Bytes} {items : List Rlp}
    (read : decodeAll? fuel b = some items) : encodeAll items = b := by
  induction fuel generalizing b items with
  | zero =>
    cases b with
    | nil =>
      simp only [decodeAll?, Option.some.injEq] at read
      rw [← read, encodeAll]
    | cons first rest => simp only [decodeAll?, reduceCtorEq] at read
  | succ fuel ih =>
    cases b with
    | nil =>
      simp only [decodeAll?, Option.some.injEq] at read
      rw [← read, encodeAll]
    | cons first rest =>
      cases announced : front? (first :: rest) with
      | none =>
        rw [decodeAll?, announced] at read
        cases read
      | some entry =>
        obtain ⟨isList, length, body⟩ := entry
        rw [decodeAll?_of_front announced] at read
        split at read
        · cases read
        · rename_i enough
          obtain ⟨item, made, read⟩ := Option.bind_eq_some_iff.1 read
          obtain ⟨others, found, rfl⟩ := Option.map_eq_some_iff.1 read
          rw [encodeAll, ih found]
          exact encode_of_item? announced (Nat.not_lt.1 enough) made fun xs => ih

theorem decode?_eq_some_iff {b : Bytes} {item : Rlp} (small : b.length < maxLength) :
    decode? b = some item ↔ b = item.encode := by
  constructor
  · intro read
    unfold decode? at read
    split at read
    · rename_i only found
      cases read
      have coded := encodeAll_of_decodeAll? found
      rw [← coded, encodeAll, encodeAll, List.append_nil]
    · cases read
  · rintro rfl
    exact decode?_encode small

end NameRights.Rlp
