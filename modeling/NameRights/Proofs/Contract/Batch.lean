/- NameRights/Proofs/Contract/Batch
   digest: Entries of a batch are read back from their values, one by one and from calldata, and
   nothing else is read as an entry. -/

import NameRights.Proofs.Contract.Calldata
import NameRights.Proofs.Result

set_option autoImplicit false
set_option relaxedAutoImplicit false

namespace NameRights

open Abi Result

namespace Abi

/-- A number with a sign or without, and the word that stands for it. -/
inductive Value.IsNumber : Value → Word → Prop
  | unsigned (w : Word) : IsNumber (.uint w) w
  | signed (w : Word) : IsNumber (.int w) w

/-- The value without a sign, if it is a number with one. -/
def Value.unsigned : Value → Value
  | .int w => .uint w
  | v => v

variable {v : Value} {w : Word}

private theorem Value.IsNumber.unsigned_eq (number : v.IsNumber w) : v.unsigned = .uint w := by
  cases number with
  | unsigned => rfl
  | signed => rfl

private theorem readWord_eq_ok : readWord v = .ok w ↔ v.IsNumber w := by
  constructor
  · intro read
    cases v with
    | uint x =>
      cases read
      exact .unsigned w
    | int x =>
      cases read
      exact .signed w
    | _ => cases read
  · intro number
    cases number with
    | unsigned => rfl
    | signed => rfl

private theorem readAddress_eq_ok {a : Address} : readAddress v = .ok a ↔ v = .address a := by
  constructor
  · intro read
    cases v with
    | address b =>
      cases read
      rfl
    | _ => cases read
  · rintro rfl
    rfl

private theorem error_of_readWord {e : ChainError} (failed : readWord v = .error e) :
    ∃ text, e = .invalidOutput text := by
  cases v with
  | uint x => cases failed
  | int x => cases failed
  | _ => exact ⟨_, (Except.error.inj failed).symm⟩

private theorem error_of_readAddress {e : ChainError} (failed : readAddress v = .error e) :
    ∃ text, e = .invalidOutput text := by
  cases v with
  | address a => cases failed
  | _ => exact ⟨_, (Except.error.inj failed).symm⟩

end Abi

namespace PrivilegeRecord

/-- A tuple of an entry's four fields. The third one is an address, the others are numbers, with a
sign or without. -/
inductive IsEntry : Value → PrivilegeRecord → Prop
  | fields {i j k : Value} {tokenId privilegeId expires : Word} (user : Address)
      (first : i.IsNumber tokenId) (second : j.IsNumber privilegeId) (fourth : k.IsNumber expires) :
      IsEntry (.tuple [i, j, .address user, k]) ⟨tokenId, privilegeId, user, expires⟩

variable {v : Value} {r : PrivilegeRecord}

private theorem ofValue_eq_ok : ofValue v = .ok r ↔ IsEntry v r := by
  constructor
  · intro read
    unfold ofValue at read
    split at read
    · obtain ⟨tokenId, first, read⟩ := bind_eq_ok.1 read
      obtain ⟨privilegeId, second, read⟩ := bind_eq_ok.1 read
      obtain ⟨user, third, read⟩ := bind_eq_ok.1 read
      obtain ⟨expires, fourth, read⟩ := bind_eq_ok.1 read
      obtain rfl := Except.ok.inj read
      obtain rfl := readAddress_eq_ok.1 third
      exact .fields user (readWord_eq_ok.1 first) (readWord_eq_ok.1 second)
        (readWord_eq_ok.1 fourth)
    · cases read
    · cases read
  · intro entry
    cases entry with
    | fields user first second fourth =>
      simp only [ofValue, readWord_eq_ok.2 first, readWord_eq_ok.2 second,
        readWord_eq_ok.2 fourth, readAddress_eq_ok.2 rfl, ok_bind]

private theorem error_of_ofValue {e : ChainError} (failed : ofValue v = .error e) :
    ∃ text, e = .invalidOutput text := by
  unfold ofValue at failed
  split at failed
  · rcases bind_eq_error.1 failed with failed | ⟨tokenId, -, failed⟩
    · exact error_of_readWord failed
    rcases bind_eq_error.1 failed with failed | ⟨privilegeId, -, failed⟩
    · exact error_of_readWord failed
    rcases bind_eq_error.1 failed with failed | ⟨user, -, failed⟩
    · exact error_of_readAddress failed
    rcases bind_eq_error.1 failed with failed | ⟨expires, -, failed⟩
    · exact error_of_readWord failed
    · cases failed
  · exact ⟨_, (Except.error.inj failed).symm⟩
  · exact ⟨_, (Except.error.inj failed).symm⟩

private theorem IsEntry.toValue_eq (entry : IsEntry v r) :
    ∃ fields, v = .tuple fields ∧ r.toValue = .tuple (fields.map Value.unsigned) := by
  cases entry with
  | fields user first second fourth =>
    refine ⟨_, rfl, ?_⟩
    simp only [toValue, List.map_cons, List.map_nil, first.unsigned_eq, second.unsigned_eq,
      fourth.unsigned_eq]
    rfl

private theorem ofValue_toValue (r : PrivilegeRecord) : ofValue r.toValue = .ok r := by
  rw [ofValue_eq_ok]
  exact .fields r.user (.unsigned _) (.unsigned _) (.unsigned _)

private theorem mapM_ofValue (records : List PrivilegeRecord) :
    (records.map toValue).mapM ofValue = .ok records := by
  induction records with
  | nil => rfl
  | cons r records ih =>
    rw [List.map_cons, List.mapM_cons, ofValue_toValue, ok_bind, ih, ok_bind]
    rfl

private theorem headsLength_toValue (records : List PrivilegeRecord) :
    headsLength (parts (records.map toValue)) = 128 * records.length := by
  induction records with
  | nil => rfl
  | cons r records ih =>
    have entry : (part r.toValue).headLength = 128 := by
      simp [toValue, part, parts, Value.anyDynamic, Value.isDynamic, joinParts, heads, tails,
        Part.headLength, Bytes.zeros]
    rw [List.map_cons, parts, headsLength, entry, ih, List.length_cons]
    omega

private theorem joinParts_behind (body : Bytes) :
    joinParts [.behind body] = Abi.word 32 ++ body := by
  simp [joinParts, heads, tails, Part.headLength]

private theorem length_encode_toValue (records : List PrivilegeRecord) :
    (encode [.array (records.map toValue)]).length = 64 + 128 * records.length := by
  have inPlace : ∀ part ∈ parts (records.map toValue), part.isBehind = false := by
    apply isBehind_parts
    induction records with
    | nil => rfl
    | cons r records ih =>
      rw [List.map_cons, Value.anyDynamic, ih]
      rfl
  have items := length_joinParts inPlace
  rw [headsLength_toValue] at items
  simp only [encode, parts, part, joinParts_behind, List.length_append, length_word, items]
  omega

/-- The calldata call the function that sets privileges, and the values that are decoded behind its
selector are read as the entries, in their order. -/
def IsCarriedBy (records : List PrivilegeRecord) (data : Bytes) : Prop :=
  ∃ f ∈ Contract.privilege.interface.functions, f.name = "batchSetPrivileges" ∧
    ∃ body items, data = f.selector.bytes ++ body ∧ decode f.kinds body = .ok [.array items] ∧
      items.mapM ofValue = .ok records

private theorem exists_isCarriedBy {records : List PrivilegeRecord} (few : records.length < 2 ^ 32)
    (address : Address) :
    ∃ data, (Method.privilegeWrite (.batchSetPrivileges records)).Asks address data ∧
      data.length = 68 + 128 * records.length ∧ IsCarriedBy records data := by
  obtain ⟨f, means⟩ := (Method.privilegeWrite (.batchSetPrivileges records)).means
  have short : ∀ a ∈ (Method.privilegeWrite (.batchSetPrivileges records)).meaning.arguments,
      a.2.Short := by
    intro a found
    obtain rfl := List.mem_singleton.1 found
    have few : (records.map toValue).length < 2 ^ 32 := by rwa [List.length_map]
    exact few
  have asks : (Method.privilegeWrite (.batchSetPrivileges records)).Asks address
      (f.selector.bytes ++ encode [.array (records.map toValue)]) :=
    Method.asks_of_encode means.encode address
  have decoded := Method.decode_arguments means short
  refine ⟨_, asks, ?_, f, means.mem, means.name, _, _, rfl, decoded, mapM_ofValue records⟩
  rw [List.length_append, Selector.length_bytes, length_encode_toValue]
  omega

/-- A value is read as an entry exactly if it is the tuple of the entry's fields, and refused for
its type otherwise. Entries are written as the tuples they are read from, without the signs of
numbers, and read back from what is written. A batch of less than 2^32 entries, each of which takes
up 128 bytes, is sent with calldata that are decoded to values of these entries in their order. -/
theorem entries_exact :
    (∀ (v : Value) (r : PrivilegeRecord), ofValue v = .ok r ↔ IsEntry v r) ∧
    (∀ v : Value, (∀ r, ¬ IsEntry v r) → ∃ text, ofValue v = .error (.invalidOutput text)) ∧
    (∀ (v : Value) (r : PrivilegeRecord), ofValue v = .ok r →
      ∃ fields, v = .tuple fields ∧ r.toValue = .tuple (fields.map Value.unsigned)) ∧
    (∀ r : PrivilegeRecord, ofValue r.toValue = .ok r) ∧
    ∀ (records : List PrivilegeRecord) (address : Address), records.length < 2 ^ 32 →
      ∃ data, (Method.privilegeWrite (.batchSetPrivileges records)).Asks address data ∧
        data.length = 68 + 128 * records.length ∧ IsCarriedBy records data := by
  refine ⟨fun v r => ofValue_eq_ok, ?_, fun v r read => (ofValue_eq_ok.1 read).toValue_eq,
    ofValue_toValue, fun records address few => exists_isCarriedBy few address⟩
  intro v none
  cases outcome : ofValue v with
  | error e =>
    obtain ⟨text, rfl⟩ := error_of_ofValue outcome
    exact ⟨text, rfl⟩
  | ok r => exact absurd (ofValue_eq_ok.1 outcome) (none r)

/-- Two entries that differ in the order of their fields' numbers. -/
theorem entries_exact_pair :
    [(⟨1, 2, ⟨0xaa⟩, 3⟩ : PrivilegeRecord), ⟨2, 1, ⟨0xaa⟩, 3⟩].length < 2 ^ 32 ∧
    ∃ data, (Method.privilegeWrite (.batchSetPrivileges
        [⟨1, 2, ⟨0xaa⟩, 3⟩, ⟨2, 1, ⟨0xaa⟩, 3⟩])).Asks (.replicate 0x11) data ∧
      data.length = 324 ∧ IsCarriedBy [⟨1, 2, ⟨0xaa⟩, 3⟩, ⟨2, 1, ⟨0xaa⟩, 3⟩] data := by
  have few : [(⟨1, 2, ⟨0xaa⟩, 3⟩ : PrivilegeRecord), ⟨2, 1, ⟨0xaa⟩, 3⟩].length < 2 ^ 32 := by decide
  obtain ⟨-, -, -, -, batches⟩ := entries_exact
  exact ⟨few, batches _ (.replicate 0x11) few⟩

end PrivilegeRecord

end NameRights
