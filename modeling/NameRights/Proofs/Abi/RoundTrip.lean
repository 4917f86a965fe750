/- NameRights/Proofs/Abi/RoundTrip
   digest: Values that are coded are read back at their types, whatever follows them. -/

import NameRights.Proofs.Abi.Layout
import NameRights.Proofs.Abi.Typing
import NameRights.Proofs.Text.Utf8
import NameRights.Proofs.Word

set_option autoImplicit false
set_option relaxedAutoImplicit false

namespace NameRights.Abi

open Bytes Result

namespace Kind

mutual

/-- Every value of the type takes up whole words, at least one: byte strings of a fixed length have
one to 32 bytes, and arrays of a fixed length and tuples are not empty. -/
def isProper : Kind → Bool
  | fixedBytes size => 0 < size && size ≤ 32
  | array item => item.isProper
  | fixedArray item size => 0 < size && item.isProper
  | tuple fields => !fields.isEmpty && allProper fields
  | _ => true

def allProper : List Kind → Bool
  | [] => true
  | kind :: kinds => kind.isProper && allProper kinds

end

end Kind

namespace Value

mutual

/-- Counts and offsets in the coding of the value fit in 32 bits. -/
def Compact : Value → Prop
  | bytes b => b.length < 2 ^ 32
  | string s => (Text.utf8 s).length < 2 ^ 32
  | array items =>
    items.length < 2 ^ 32 ∧ OffsetsFit (headsLength (parts items)) (parts items) ∧ AllCompact items
  | fixedArray items =>
    OffsetsFit (headsLength (parts items)) (parts items) ∧ AllCompact items
  | tuple fields =>
    OffsetsFit (headsLength (parts fields)) (parts fields) ∧ AllCompact fields
  | _ => True

def AllCompact : List Value → Prop
  | [] => True
  | v :: vs => v.Compact ∧ AllCompact vs

end

/-- Counts and offsets in the coding of a list fit in 32 bits. -/
def ListCompact (vs : List Value) : Prop :=
  OffsetsFit (headsLength (parts vs)) (parts vs) ∧ AllCompact vs

private theorem anyDynamic_of_allBelong {vs : List Value} {kind : Kind} (belong : AllBelong vs kind)
    (same : ∀ v : Value, v.Belongs kind → v.isDynamic = kind.isDynamic) :
    anyDynamic vs = (kind.isDynamic && !vs.isEmpty) := by
  induction vs with
  | nil => simp [anyDynamic]
  | cons v vs ih =>
    rw [anyDynamic, same v belong.1, ih belong.2]
    cases kind.isDynamic with
    | false => rfl
    | true => rfl

mutual

private theorem isDynamic_eq : (kind : Kind) → (v : Value) → v.Belongs kind → kind.isProper = true →
    v.isDynamic = kind.isDynamic
  | .address, address _, _, _ => rfl
  | .fixedBytes _, fixedBytes _, _, _ => rfl
  | .bytes, bytes _, _, _ => rfl
  | .int _, int _, _, _ => rfl
  | .uint _, uint _, _, _ => rfl
  | .bool, .bool _, _, _ => rfl
  | .string, string _, _, _ => rfl
  | .array _, array _, _, _ => rfl
  | .fixedArray item size, fixedArray items, belongs, proper => by
    obtain ⟨length, belong⟩ := belongs
    simp only [Kind.isProper, Bool.and_eq_true, decide_eq_true_eq] at proper
    have some : items.isEmpty = false := by
      rw [List.isEmpty_eq_false_iff_exists_mem]
      exact List.exists_mem_of_length_pos (by omega)
    have same := anyDynamic_of_allBelong belong fun v belongs =>
      isDynamic_eq item v belongs proper.2
    simpa [isDynamic, Kind.isDynamic, some] using same
  | .tuple kinds, tuple fields, belongs, proper => by
    simp only [Kind.isProper, Bool.and_eq_true] at proper
    exact anyDynamic_eq kinds fields belongs proper.2

theorem anyDynamic_eq : (kinds : List Kind) → (vs : List Value) → ListBelongs vs kinds →
    Kind.allProper kinds = true → anyDynamic vs = Kind.anyDynamic kinds
  | [], [], _, _ => rfl
  | kind :: kinds, v :: vs, belong, proper => by
    simp only [Kind.allProper, Bool.and_eq_true] at proper
    simp only [anyDynamic, Kind.anyDynamic, isDynamic_eq kind v belong.1 proper.1,
      anyDynamic_eq kinds vs belong.2 proper.2]

end

end Value

open Value

theorem isBehind_part (v : Value) : (part v).isBehind = v.isDynamic := by
  cases v with
  | fixedArray items =>
    simp only [part, isDynamic]
    split
    · rename_i dynamic
      rw [dynamic, Part.isBehind]
    · rename_i static
      rw [Bool.eq_false_iff.2 static, Part.isBehind]
  | tuple fields =>
    simp only [part, isDynamic]
    split
    · rename_i dynamic
      rw [dynamic, Part.isBehind]
    · rename_i static
      rw [Bool.eq_false_iff.2 static, Part.isBehind]
  | _ => rfl

theorem isBehind_parts {vs : List Value} (static : anyDynamic vs = false) :
    ∀ part ∈ parts vs, part.isBehind = false := by
  induction vs with
  | nil => simp [parts]
  | cons v vs ih =>
    simp only [anyDynamic, Bool.or_eq_false_iff] at static
    intro p found
    rcases List.mem_cons.1 found with rfl | found
    · rw [isBehind_part, static.1]
    · exact ih static.2 p found

private theorem length_padRight {b : Bytes} (some : 0 < b.length) (short : b.length ≤ 32) :
    (padRight b).length = 32 := by
  simp only [padRight, zeros, List.length_append, List.length_replicate]
  omega

private theorem headsLength_allBelong {kind : Kind} {vs : List Value} (belong : AllBelong vs kind)
    (wide : ∀ v : Value, v.Belongs kind → 32 ≤ (part v).headLength) (some : 0 < vs.length) :
    32 ≤ headsLength (parts vs) := by
  cases vs with
  | nil => exact absurd some (Nat.lt_irrefl 0)
  | cons v vs =>
    have first := wide v belong.1
    simp only [parts, headsLength]
    omega

private theorem le_headLength_list {vs : List Value} (wide : 32 ≤ headsLength (parts vs)) :
    32 ≤ (if anyDynamic vs = true then Part.behind (joinParts (parts vs))
      else .inPlace (joinParts (parts vs))).headLength := by
  split
  · exact Nat.le_refl 32
  · exact Nat.le_trans wide (headsLength_le _)

mutual

theorem le_headLength : (kind : Kind) → (v : Value) → v.Belongs kind → kind.isProper = true →
    32 ≤ (part v).headLength
  | .address, address a, _, _ => by simp [part, Part.headLength, zeros]
  | .fixedBytes size, fixedBytes b, belongs, proper => by
    obtain rfl : b.length = size := belongs
    simp only [Kind.isProper, Bool.and_eq_true, decide_eq_true_eq] at proper
    exact Nat.le_of_eq (length_padRight proper.1 proper.2).symm
  | .bytes, bytes _, _, _ => Nat.le_refl 32
  | .int _, int w, _, _ => by simp [part, Part.headLength]
  | .uint _, uint w, _, _ => by simp [part, Part.headLength]
  | .bool, .bool b, _, _ => by simp [part, Part.headLength]
  | .string, string _, _, _ => Nat.le_refl 32
  | .array _, array _, _, _ => Nat.le_refl 32
  | .fixedArray item size, fixedArray items, belongs, proper => by
    simp only [Kind.isProper, Bool.and_eq_true, decide_eq_true_eq] at proper
    have wide := headsLength_allBelong belongs.2 (fun v belongs =>
      le_headLength item v belongs proper.2) (by rw [belongs.1]; exact proper.1)
    exact le_headLength_list wide
  | .tuple kinds, tuple fields, belongs, proper => by
    simp only [Kind.isProper, Bool.and_eq_true] at proper
    have some : kinds ≠ [] := by
      rintro rfl
      exact absurd proper.1 (by decide)
    exact le_headLength_list (le_headsLength kinds fields belongs proper.2 some)

private theorem le_headsLength : (kinds : List Kind) → (vs : List Value) → ListBelongs vs kinds →
    Kind.allProper kinds = true → kinds ≠ [] → 32 ≤ headsLength (parts vs)
  | kind :: kinds, v :: vs, belong, proper, _ => by
    simp only [Kind.allProper, Bool.and_eq_true] at proper
    have first := le_headLength kind v belong.1 proper.1
    simp only [parts, headsLength]
    omega

end

private theorem next_place {vs : List Value} {offset first : Nat}
    (static : anyDynamic vs = false → first = offset) :
    (if anyDynamic vs = true then offset + 32 else first + headsLength (parts vs)) =
      offset + (if anyDynamic vs = true then Part.behind (joinParts (parts vs))
        else .inPlace (joinParts (parts vs))).headLength := by
  cases dynamic : anyDynamic vs with
  | true => rfl
  | false =>
    have whole := length_joinParts (isBehind_parts dynamic)
    simp only [Bool.false_eq_true, if_false, Part.headLength, static dynamic, whole]

private theorem repeated_of_placed {read : Nat → Except Fault (Value × Nat)} {kind : Kind}
    {data : Bytes} (reads : ∀ (v : Value) offset, v.Belongs kind → v.Compact →
      (part v).Placed data offset → read offset = .ok (v, offset + (part v).headLength))
    {vs : List Value} {offset : Nat} (belong : AllBelong vs kind) (compact : AllCompact vs)
    (placed : AllPlaced data offset (parts vs)) :
    repeated read vs.length offset = .ok (vs, offset + headsLength (parts vs)) := by
  induction vs generalizing offset with
  | nil => rfl
  | cons v vs ih =>
    have first := reads v offset belong.1 compact.1 placed.1
    have others := ih belong.2 compact.2 placed.2
    simp only [List.length_cons, repeated, first, others, ok_bind, parts, headsLength,
      Nat.add_assoc]

mutual

private theorem valueAt_of_placed : (kind : Kind) → (v : Value) → (data : Bytes) → (offset : Nat) →
    v.Belongs kind → kind.isProper = true → v.Compact → (part v).Placed data offset →
    valueAt kind data offset = .ok (v, offset + (part v).headLength)
  | .address, address a, data, offset, _, _, _, placed => by
    have size : (zeros 12 ++ a.bytes).length = 32 := by simp [zeros]
    simp only [part, Part.Placed] at placed
    simp only [valueAt, wordAt_of_stands size placed, ok_bind, part, Part.headLength, size,
      Address.ofBytes_append _ a.length_bytes, Address.ofBytes_bytes]
  | .fixedBytes size, fixedBytes b, data, offset, belongs, proper, _, placed => by
    simp only [Kind.isProper, Bool.and_eq_true, decide_eq_true_eq] at proper
    obtain rfl : b.length = size := belongs
    simp only [part, Part.Placed, padRight] at placed
    simp only [valueAt, bytesAt_of_stands placed.left, ok_bind, part, Part.headLength,
      length_padRight proper.1 proper.2]
  | .bytes, bytes b, data, offset, _, _, compact, placed => by
    obtain ⟨start, near, offsetStands, stands⟩ := placed
    simp only [valueAt, countedAt_of_stands near compact offsetStands stands, ok_bind, part,
      Part.headLength]
  | .int _, int w, data, offset, _, _, _, placed => by
    simp only [part, Part.Placed] at placed
    simp only [valueAt, wordAt_of_stands (Word.length_bytes w) placed, ok_bind, part,
      Part.headLength, Word.ofBytes_bytes, Word.length_bytes]
  | .uint _, uint w, data, offset, _, _, _, placed => by
    simp only [part, Part.Placed] at placed
    simp only [valueAt, wordAt_of_stands (Word.length_bytes w) placed, ok_bind, part,
      Part.headLength, Word.ofBytes_bytes, Word.length_bytes]
  | .bool, .bool b, data, offset, _, _, _, placed => by
    simp only [part, Part.Placed] at placed
    simp only [valueAt, boolAt_of_stands placed, ok_bind, part, Part.headLength, length_word]
  | .string, string s, data, offset, _, _, compact, placed => by
    obtain ⟨start, near, offsetStands, stands⟩ := placed
    simp only [valueAt, countedAt_of_stands near compact offsetStands stands, ok_bind, part,
      Part.headLength, Text.lossy_utf8]
  | .array item, array items, data, offset, belong, proper, compact, placed => by
    obtain ⟨start, near, offsetStands, stands⟩ := placed
    obtain ⟨few, fit, compact⟩ := compact
    have count := sizeAt_of_stands few stands.left
    -- offsets of items are counted from behind the number of items
    have body := stands.right
    rw [length_word] at body
    have items_read := repeated_of_placed (fun v offset belongs compact placed =>
      valueAt_of_placed item v _ offset belongs proper compact placed) belong compact
      (allPlaced_drop body fit)
    simp only [valueAt, sizeAt_of_stands near offsetStands, count, items_read, ok_bind, part,
      Part.headLength]
  -- a list stands in place or behind an offset, and its items are read from where it stands
  | .fixedArray item size, fixedArray items, data, offset, belongs, proper, compact, placed => by
    have dynamic := isDynamic_eq _ _ belongs proper
    simp only [isDynamic, Kind.isDynamic] at dynamic
    simp only [Kind.isProper, Bool.and_eq_true, decide_eq_true_eq] at proper
    obtain ⟨rfl, belong⟩ := belongs
    simp only [part] at placed ⊢
    obtain ⟨body, first, found, all_placed, static⟩ := listAt_of_placed (fun _ => compact.1)
      isBehind_parts placed
    have items_read := repeated_of_placed (fun v offset belongs compact placed =>
      valueAt_of_placed item v _ offset belongs proper.2 compact placed) belong compact.2 all_placed
    simp only [valueAt, ← dynamic, found, items_read, ok_bind, next_place static]
  | .tuple kinds, tuple fields, data, offset, belong, proper, compact, placed => by
    have dynamic := isDynamic_eq _ _ belong proper
    simp only [isDynamic, Kind.isDynamic] at dynamic
    simp only [Kind.isProper, Bool.and_eq_true] at proper
    simp only [part] at placed ⊢
    obtain ⟨body, first, found, all_placed, static⟩ := listAt_of_placed (fun _ => compact.1)
      isBehind_parts placed
    have fields_read := valuesAt_of_placed kinds fields body first belong proper.2 compact.2
      all_placed
    simp only [valueAt, ← dynamic, found, fields_read, ok_bind, next_place static]

private theorem valuesAt_of_placed : (kinds : List Kind) → (vs : List Value) → (data : Bytes) →
    (offset : Nat) → ListBelongs vs kinds → Kind.allProper kinds = true → AllCompact vs →
    AllPlaced data offset (parts vs) →
    valuesAt kinds data offset = .ok (vs, offset + headsLength (parts vs))
  | [], [], _, _, _, _, _, _ => rfl
  | kind :: kinds, v :: vs, data, offset, belong, proper, compact, placed => by
    simp only [Kind.allProper, Bool.and_eq_true] at proper
    have first := valueAt_of_placed kind v data offset belong.1 proper.1 compact.1 placed.1
    have others := valuesAt_of_placed kinds vs data _ belong.2 proper.2 compact.2 placed.2
    simp only [valuesAt, first, others, ok_bind, parts, headsLength, Nat.add_assoc]

end

theorem decode_encode_append {kinds : List Kind} {vs : List Value}
    (proper : Kind.allProper kinds = true) (belong : ListBelongs vs kinds)
    (compact : ListCompact vs) (rest : Bytes) : decode kinds (encode vs ++ rest) = .ok vs := by
  have stands : Bytes.Stands (joinParts (parts vs)) (encode vs ++ rest) 0 :=
    Bytes.stands_self (encode vs) rest
  have placed := allPlaced_drop stands compact.1
  have read := valuesAt_of_placed kinds vs _ 0 belong proper compact.2 placed
  have expected : ((encode vs ++ rest).isEmpty && !kinds.all Kind.isEmpty) = false := by
    cases kinds with
    | nil => exact Bool.and_false _
    | cons kind kinds =>
      have wide := le_headsLength _ vs belong proper (List.cons_ne_nil kind kinds)
      have whole := headsLength_le (parts vs)
      have some : encode vs ++ rest ≠ [] := by
        intro none
        have empty : encode vs = [] := (List.append_eq_nil_iff.1 none).1
        rw [← encode, empty, List.length_nil] at whole
        omega
      rw [List.isEmpty_eq_false_iff.2 some, Bool.false_and]
  rw [List.drop_zero] at read
  rw [decode, if_neg (by rw [expected]; exact Bool.false_ne_true), read, Except.map]

end NameRights.Abi
