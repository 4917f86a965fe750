/- NameRights/Proofs/Abi/Padding
   digest: Byte strings shorter than their type are coded as if they were filled up, and read back so. -/

import NameRights.Proofs.Abi.Passing
import NameRights.Proofs.Abi.RoundTrip

set_option autoImplicit false
set_option relaxedAutoImplicit false

namespace NameRights.Abi

open Bytes

namespace Value

mutual

/-- The value with its byte strings of a fixed length filled up to the length of their types. -/
def padded : Value → Kind → Value
  | fixedBytes b, .fixedBytes size => fixedBytes (b ++ zeros (size - b.length))
  | fixedArray items, .fixedArray kind _ => fixedArray (allPadded items kind)
  | array items, .array kind => array (allPadded items kind)
  | tuple fields, .tuple kinds => tuple (listPadded fields kinds)
  | v, _ => v

def allPadded : List Value → Kind → List Value
  | [], _ => []
  | v :: vs, kind => v.padded kind :: allPadded vs kind

def listPadded : List Value → List Kind → List Value
  | v :: vs, kind :: kinds => v.padded kind :: listPadded vs kinds
  | vs, _ => vs

end

mutual

/-- No byte string of a fixed length in the value is empty. -/
def Written : Value → Prop
  | fixedBytes b => b ≠ []
  | fixedArray items | array items | tuple items => AllWritten items
  | _ => True

def AllWritten : List Value → Prop
  | [] => True
  | v :: vs => v.Written ∧ AllWritten vs

end

private theorem length_allPadded (vs : List Value) (kind : Kind) :
    (allPadded vs kind).length = vs.length := by
  induction vs with
  | nil => rfl
  | cons v vs ih => rw [allPadded, List.length_cons, List.length_cons, ih]

mutual

private theorem belongs_padded_iff (v : Value) (kind : Kind) :
    (v.padded kind).Belongs kind ↔ v.Suits false kind := by
  cases v with
  | array items =>
    cases kind with
    | array kind => exact allBelong_padded_iff items kind
    | _ => exact Iff.rfl
  | fixedArray items =>
    cases kind with
    | fixedArray kind size =>
      have all := allBelong_padded_iff items kind
      simp only [padded, Belongs, Suits, length_allPadded, all, eq_comm]
    | _ => exact Iff.rfl
  | tuple fields =>
    cases kind with
    | tuple kinds => exact listBelongs_padded_iff fields kinds
    | _ => exact Iff.rfl
  | fixedBytes b =>
    cases kind with
    | fixedBytes size =>
      simp only [padded, Belongs, Suits, zeros, List.length_append, List.length_replicate]
      omega
    | _ => exact Iff.rfl
  | address | bytes | int | uint | bool | string => cases kind <;> exact Iff.rfl

private theorem allBelong_padded_iff (vs : List Value) (kind : Kind) :
    AllBelong (allPadded vs kind) kind ↔ AllSuit false vs kind := by
  cases vs with
  | nil => exact Iff.rfl
  | cons v vs => exact and_congr (belongs_padded_iff v kind) (allBelong_padded_iff vs kind)

theorem listBelongs_padded_iff (vs : List Value) (kinds : List Kind) :
    ListBelongs (listPadded vs kinds) kinds ↔ ListSuits false vs kinds := by
  cases vs with
  | nil =>
    cases kinds with
    | nil => exact Iff.rfl
    | cons kind kinds => simp [listPadded, ListBelongs, ListSuits]
  | cons v vs =>
    cases kinds with
    | nil => exact Iff.rfl
    | cons kind kinds => exact and_congr (belongs_padded_iff v kind) (listBelongs_padded_iff vs kinds)

end

end Value

open Value

private theorem anyDynamic_eq_any_parts (vs : List Value) :
    anyDynamic vs = (parts vs).any Part.isBehind := by
  induction vs with
  | nil => rfl
  | cons v vs ih => rw [anyDynamic, parts, List.any_cons, isBehind_part, ih]

private theorem padRight_padded {b : Bytes} {size : Nat} (some : b ≠ []) (short : b.length ≤ size)
    (narrow : size ≤ 32) : padRight (b ++ zeros (size - b.length)) = padRight b := by
  have length := List.length_pos_iff.2 some
  have whole : (b ++ zeros (size - b.length)).length = size := by
    simp only [zeros, List.length_append, List.length_replicate]
    omega
  have rest : size - b.length + (32 - size % 32) % 32 = (32 - b.length % 32) % 32 := by omega
  rw [padRight, whole, List.append_assoc, padRight, zeros, zeros, zeros,
    List.replicate_append_replicate, rest]

mutual

private theorem part_padded (v : Value) (kind : Kind) (proper : kind.isProper = true)
    (suits : v.Suits false kind) (written : v.Written) : part (v.padded kind) = part v := by
  cases v with
  | array items =>
    cases kind with
    | array kind =>
      have same := parts_allPadded items kind proper suits written
      simp only [padded, part, length_allPadded, same]
    | _ => exact suits.elim
  | fixedArray items =>
    cases kind with
    | fixedArray kind size =>
      simp only [Kind.isProper, Bool.and_eq_true] at proper
      have same := parts_allPadded items kind proper.2 suits.2 written
      simp only [padded, part, anyDynamic_eq_any_parts, same]
    | _ => exact suits.elim
  | tuple fields =>
    cases kind with
    | tuple kinds =>
      simp only [Kind.isProper, Bool.and_eq_true] at proper
      have same := parts_listPadded fields kinds proper.2 suits written
      simp only [padded, part, anyDynamic_eq_any_parts, same]
    | _ => exact suits.elim
  | fixedBytes b =>
    cases kind with
    | fixedBytes size =>
      simp only [Kind.isProper, Bool.and_eq_true, decide_eq_true_eq] at proper
      simp only [padded, part, padRight_padded written suits proper.2]
    | _ => exact suits.elim
  | address | bytes | int | uint | bool | string => cases kind <;> rfl

private theorem parts_allPadded (vs : List Value) (kind : Kind) (proper : kind.isProper = true)
    (suit : AllSuit false vs kind) (written : AllWritten vs) :
    parts (allPadded vs kind) = parts vs := by
  cases vs with
  | nil => rfl
  | cons v vs =>
    rw [allPadded, parts, parts, part_padded v kind proper suit.1 written.1,
      parts_allPadded vs kind proper suit.2 written.2]

private theorem parts_listPadded (vs : List Value) (kinds : List Kind)
    (proper : Kind.allProper kinds = true) (suit : ListSuits false vs kinds)
    (written : AllWritten vs) : parts (listPadded vs kinds) = parts vs := by
  cases vs with
  | nil =>
    cases kinds with
    | nil => rfl
    | cons kind kinds => rfl
  | cons v vs =>
    cases kinds with
    | nil => rfl
    | cons kind kinds =>
      simp only [Kind.allProper, Bool.and_eq_true] at proper
      rw [listPadded, parts, parts, part_padded v kind proper.1 suit.1 written.1,
        parts_listPadded vs kinds proper.2 suit.2 written.2]

end

private theorem length_tails_cons (part : Part) (parts : List Part) :
    (tails (part :: parts)).length = part.tailLength + (tails parts).length := by
  cases part with
  | inPlace body => rw [tails, Part.tailLength, Nat.zero_add]
  | behind body => rw [tails, Part.tailLength, List.length_append]

theorem length_joinParts_eq (parts : List Part) :
    (joinParts parts).length = headsLength parts + (tails parts).length := by
  rw [joinParts_eq, List.length_append, length_heads]

private theorem length_part_le {part : Part} {parts : List Part} (found : part ∈ parts) :
    part.headLength + part.tailLength ≤ (joinParts parts).length := by
  rw [length_joinParts_eq]
  induction parts with
  | nil => cases found
  | cons first parts ih =>
    have tail := length_tails_cons first parts
    rcases List.mem_cons.1 found with rfl | found
    · rw [headsLength]
      omega
    · have shorter := ih found
      rw [headsLength]
      omega

private theorem parts_small {parts : List Part} (small : (joinParts parts).length < 2 ^ 32) :
    ∀ part ∈ parts, part.headLength + part.tailLength < 2 ^ 32 :=
  fun _ found => Nat.lt_of_le_of_lt (length_part_le found) small

private theorem offsetsFit_of_length {tail : Nat} {parts : List Part}
    (small : tail + (tails parts).length < 2 ^ 32) : OffsetsFit tail parts := by
  induction parts generalizing tail with
  | nil => trivial
  | cons part parts ih =>
    have rest := length_tails_cons part parts
    cases part with
    | inPlace body =>
      rw [Part.tailLength] at rest
      exact ih (by omega)
    | behind body =>
      rw [Part.tailLength] at rest
      exact ⟨by omega, ih (by omega)⟩

private theorem offsetsFit_of_joinParts {parts : List Part}
    (small : (joinParts parts).length < 2 ^ 32) :
    OffsetsFit (headsLength parts) parts := by
  rw [length_joinParts_eq] at small
  exact offsetsFit_of_length small

private theorem length_le_headsLength {kind : Kind} (proper : kind.isProper = true)
    {vs : List Value}
    (belong : AllBelong vs kind) : 32 * vs.length ≤ headsLength (parts vs) := by
  induction vs with
  | nil => exact Nat.le_refl 0
  | cons v vs ih =>
    have first := le_headLength kind v belong.1 proper
    have others := ih belong.2
    rw [parts, headsLength, List.length_cons]
    omega

private theorem length_joinParts_le (vs : List Value) :
    (joinParts (parts vs)).length ≤
      (if anyDynamic vs = true then Part.behind (joinParts (parts vs))
        else .inPlace (joinParts (parts vs))).headLength +
      (if anyDynamic vs = true then Part.behind (joinParts (parts vs))
        else .inPlace (joinParts (parts vs))).tailLength := by
  split
  · exact Nat.le_add_left _ _
  · exact Nat.le_add_right _ _

mutual

private theorem compact_of_small (kind : Kind) (v : Value) (belongs : v.Belongs kind)
    (proper : kind.isProper = true)
    (small : (part v).headLength + (part v).tailLength < 2 ^ 32) : v.Compact := by
  cases v with
  | bytes b =>
    simp only [part, Part.headLength, Part.tailLength, counted, padRight, List.length_append,
      length_word] at small
    exact show b.length < 2 ^ 32 by omega
  | string s =>
    simp only [part, Part.headLength, Part.tailLength, counted, padRight, List.length_append,
      length_word] at small
    exact show (Text.utf8 s).length < 2 ^ 32 by omega
  | array items =>
    cases kind with
    | array kind =>
      simp only [part, Part.headLength, Part.tailLength, List.length_append, length_word] at small
      have join : (joinParts (parts items)).length < 2 ^ 32 := by omega
      have belong : AllBelong items kind := belongs
      have proper : kind.isProper = true := proper
      have many := length_le_headsLength proper belong
      have heads := headsLength_le (parts items)
      exact ⟨by omega, offsetsFit_of_joinParts join,
        allCompact_of_small kind items belong proper (parts_small join)⟩
    | _ => exact belongs.elim
  | fixedArray items =>
    cases kind with
    | fixedArray kind size =>
      simp only [Kind.isProper, Bool.and_eq_true] at proper
      have join := Nat.lt_of_le_of_lt (length_joinParts_le items) small
      exact ⟨offsetsFit_of_joinParts join,
        allCompact_of_small kind items belongs.2 proper.2 (parts_small join)⟩
    | _ => exact belongs.elim
  | tuple fields =>
    cases kind with
    | tuple kinds =>
      simp only [Kind.isProper, Bool.and_eq_true] at proper
      have join := Nat.lt_of_le_of_lt (length_joinParts_le fields) small
      exact ⟨offsetsFit_of_joinParts join,
        listCompact_of_small kinds fields belongs proper.2 (parts_small join)⟩
    | _ => exact belongs.elim
  | address | fixedBytes | int | uint | bool => trivial

private theorem allCompact_of_small (kind : Kind) (vs : List Value) (belong : AllBelong vs kind)
    (proper : kind.isProper = true)
    (small : ∀ part ∈ parts vs, part.headLength + part.tailLength < 2 ^ 32) : AllCompact vs := by
  cases vs with
  | nil => trivial
  | cons v vs =>
    have first := small (part v) (List.mem_cons_self ..)
    refine ⟨compact_of_small kind v belong.1 proper first,
      allCompact_of_small kind vs belong.2 proper fun p found => ?_⟩
    exact small p (List.mem_cons_of_mem _ found)

private theorem listCompact_of_small (kinds : List Kind) (vs : List Value)
    (belong : ListBelongs vs kinds)
    (proper : Kind.allProper kinds = true)
    (small : ∀ part ∈ parts vs, part.headLength + part.tailLength < 2 ^ 32) : AllCompact vs := by
  cases vs with
  | nil => trivial
  | cons v vs =>
    cases kinds with
    | nil => exact belong.elim
    | cons kind kinds =>
      simp only [Kind.allProper, Bool.and_eq_true] at proper
      have first := small (part v) (List.mem_cons_self ..)
      refine ⟨compact_of_small kind v belong.1 proper.1 first,
        listCompact_of_small kinds vs belong.2 proper.2 fun p found => ?_⟩
      exact small p (List.mem_cons_of_mem _ found)

end

/-- What is coded in less than 2³² bytes is read back, with its byte strings filled up. -/
theorem decode_encode_padded {kinds : List Kind} {vs : List Value}
    (proper : Kind.allProper kinds = true) (suit : ListSuits false vs kinds)
    (written : AllWritten vs) (small : (encode vs).length < 2 ^ 32) :
    decode kinds (encode vs) = .ok (listPadded vs kinds) := by
  have same : encode (listPadded vs kinds) = encode vs := by
    rw [encode, parts_listPadded vs kinds proper suit written, encode]
  have belong := (listBelongs_padded_iff vs kinds).2 suit
  rw [← same] at small ⊢
  have compact : ListCompact (listPadded vs kinds) :=
    ⟨offsetsFit_of_joinParts small, listCompact_of_small kinds _ belong proper (parts_small small)⟩
  have read := decode_encode_append proper belong compact []
  rw [List.append_nil] at read
  exact read

end NameRights.Abi
