/- NameRights/Proofs/Key/Reading
   digest: What a file has to say to be read as a key file, and for which address it then is. -/

import NameRights.Key.File
import NameRights.Proofs.HexText
import NameRights.Proofs.Text.Utf8

set_option autoImplicit false
set_option relaxedAutoImplicit false

namespace NameRights

namespace Json

/-- A record in which one field carries a name, and what it holds. -/
def Has (j : Json) (name : String) (value : Json) : Prop :=
  ∃ fields, j = .record fields ∧ fields.filter (·.1 == name) = [(name, value)]

def HasBytes (j : Json) (name : String) (bytes : Bytes) : Prop :=
  ∃ s, j.Has name (.text s) ∧ Hex.Spells s.toList bytes

def HasNat (j : Json) (name : String) (bound n : Nat) : Prop :=
  j.Has name (.ofNat n) ∧ n < bound

private theorem text?_eq_some {j : Json} {s : String} : j.text? = some s ↔ j = .text s := by
  cases j <;> simp [text?]

private theorem nat?_eq_some {j : Json} {n : Nat} : j.nat? = some n ↔ j = .ofNat n := by
  unfold nat? ofNat ofInt
  split
  · rename_i m
    rw [Option.some.injEq, Json.number.injEq, Number.whole.injEq]
    exact Int.ofNat_inj.symm
  · rename_i other
    simp only [reduceCtorEq, false_iff]
    exact other n

private theorem isNull_iff {j : Json} : j.isNull = true ↔ j = .null := by
  cases j <;> simp [isNull]

end Json

namespace KeyFile

open Json

section Fields

variable {j : Json} {name : String}

private theorem only?_eq_some {value : Json} : only? j name = some value ↔ j.Has name value := by
  unfold only?
  cases j with
  | record fields =>
    have counted : Json.count (.record fields) name = (fields.filter (·.1 == name)).length :=
      List.countP_eq_length_filter
    have found : Json.field? (.record fields) name =
        ((fields.filter (·.1 == name)).reverse.head?).map (·.2) := by
      rw [Json.field?, ← List.filter_reverse, List.head?_filter]
    have named : ∀ e ∈ fields.filter (·.1 == name), e.1 = name := by
      intro e listed
      exact beq_iff_eq.1 (List.mem_filter.1 listed).2
    rw [counted, found]
    unfold Json.Has
    simp only [Json.record.injEq, exists_eq_left']
    split
    · rename_i one
      obtain ⟨⟨other, v⟩, alone⟩ := List.length_eq_one_iff.1 one
      have same : other = name := named (other, v) (alone ▸ List.mem_singleton_self _)
      simp [alone, same]
    · rename_i several
      simp only [reduceCtorEq, false_iff]
      intro alone
      exact several (congrArg List.length alone)
  | _ => simp [Json.count, Json.Has]

private theorem text_eq_some {s : String} :
    ((only? j name).bind Json.text?) = some s ↔ j.Has name (.text s) := by
  simp only [Option.bind_eq_some_iff, only?_eq_some, text?_eq_some, exists_eq_right]

private theorem bytes?_eq_some {bytes : Bytes} :
    bytes? j name = some bytes ↔ j.HasBytes name bytes := by
  have read : bytes? j name = ((only? j name).bind Json.text?).bind fun s =>
      (Hex.decode s.toList).toOption := (Option.bind_assoc _ _ _).symm
  have spelled (s : String) : (Hex.decode s.toList).toOption = some bytes ↔
      Hex.Spells s.toList bytes := by
    rw [← Hex.decode_eq_ok]
    cases Hex.decode s.toList <;> simp [Except.toOption]
  rw [read, Option.bind_eq_some_iff]
  simp only [text_eq_some, spelled, Json.HasBytes]

private theorem nat?_eq_some {bound n : Nat} :
    nat? j name bound = some n ↔ j.HasNat name bound n := by
  have read : nat? j name bound = (only? j name).bind fun value => value.nat?.bind fun m =>
      if m < bound then some m else none := rfl
  simp only [read, Option.bind_eq_some_iff, only?_eq_some, Json.nat?_eq_some, Json.HasNat,
    Option.ite_none_right_eq_some, Option.some.injEq]
  constructor
  · rintro ⟨value, field, m, rfl, small, rfl⟩
    exact ⟨field, small⟩
  · rintro ⟨field, small⟩
    exact ⟨_, field, n, rfl, small, rfl⟩

end Fields

/-- How a record says a password is stretched. -/
inductive SaysStretching (j : Json) : Stretching → Prop
  | rounds {params : Json} {length count : Nat} {salt : Bytes}
      (method : j.Has "kdf" (.text "pbkdf2")) (stated : j.Has "kdfparams" params)
      (salted : params.HasBytes "salt" salt) (sized : params.HasNat "dklen" UInt32.size length)
      (code : params.Has "prf" (.text "hmac-sha256"))
      (counted : params.HasNat "c" UInt32.size count) : SaysStretching j (.rounds count salt)
  | memory {params : Json} {length n r p : Nat} {salt : Bytes}
      (method : j.Has "kdf" (.text "scrypt")) (stated : j.Has "kdfparams" params)
      (salted : params.HasBytes "salt" salt) (sized : params.HasNat "dklen" UInt32.size length)
      (blocks : params.HasNat "n" UInt32.size n) (width : params.HasNat "r" UInt32.size r)
      (lanes : params.HasNat "p" UInt32.size p) : SaysStretching j (.memory n r p salt)

/-- The address a record is for: none if the field is missing or `null`. -/
def SaysAddress (j : Json) : Option Bytes → Prop
  | none => j.count "address" = 0 ∨ j.Has "address" .null
  | some bytes => j.HasBytes "address" bytes

/-- A record that says all a key file has to say. Fields with other names do not count. -/
structure IsSaid (file : KeyFile) (j : Json) : Prop where
  identified : ∃ id, j.Has "id" (.text id)
  versioned : ∃ version, j.HasNat "version" UInt64.size version
  addressed : SaysAddress j file.address
  enciphered : ∃ crypto, j.Has "crypto" crypto ∧ crypto.HasBytes "ciphertext" file.ciphertext ∧
    crypto.HasBytes "mac" file.mac ∧ crypto.Has "cipher" (.text "aes-128-ctr") ∧
    (∃ params, crypto.Has "cipherparams" params ∧ params.HasBytes "iv" file.vector) ∧
    SaysStretching crypto file.stretching

private theorem stretching?_eq_some {j : Json} {stretching : Stretching} :
    stretching? j = some stretching ↔ SaysStretching j stretching := by
  unfold stretching?
  simp only [Option.bind_eq_bind, Option.bind_eq_some_iff, only?_eq_some, text?_eq_some,
    bytes?_eq_some, nat?_eq_some]
  constructor
  · rintro ⟨_, method, kind, rfl, params, stated, salt, salted, length, sized, chosen⟩
    split at chosen
    · rename_i rounds
      obtain rfl := beq_iff_eq.1 rounds
      simp only [Option.bind_eq_some_iff, only?_eq_some, text?_eq_some, nat?_eq_some,
        Option.ite_none_right_eq_some, beq_iff_eq] at chosen
      obtain ⟨_, code, _, rfl, count, counted, rfl, same⟩ := chosen
      cases same
      exact .rounds method stated salted sized code counted
    · split at chosen
      · rename_i memory
        obtain rfl := beq_iff_eq.1 memory
        simp only [Option.bind_eq_some_iff, nat?_eq_some] at chosen
        obtain ⟨n, blocks, r, width, p, lanes, same⟩ := chosen
        cases same
        exact .memory method stated salted sized blocks width lanes
      · cases chosen
  · intro said
    cases said with
    | rounds method stated salted sized code counted =>
      refine ⟨_, method, _, rfl, _, stated, _, salted, _, sized, ?_⟩
      rw [if_pos (beq_self_eq_true _)]
      simp only [Option.bind_eq_some_iff, only?_eq_some, text?_eq_some, nat?_eq_some]
      exact ⟨_, code, _, rfl, _, counted, if_pos (beq_self_eq_true _)⟩
    | memory method stated salted sized blocks width lanes =>
      refine ⟨_, method, _, rfl, _, stated, _, salted, _, sized, ?_⟩
      rw [if_neg (by decide), if_pos (beq_self_eq_true _)]
      simp only [Option.bind_eq_some_iff, nat?_eq_some]
      exact ⟨_, blocks, _, width, _, lanes, rfl⟩

private theorem address?_eq_some {j : Json} {address : Option Bytes} :
    address? j = some address ↔ SaysAddress j address := by
  unfold address?
  split
  · rename_i missing
    have unnamed {value : Json} : ¬ j.Has "address" value := by
      rw [← only?_eq_some, only?, if_neg (by omega)]
      exact Option.some_ne_none value ∘ Eq.symm
    cases address with
    | none => simp [SaysAddress, missing]
    | some bytes =>
      have silent : ¬ j.HasBytes "address" bytes := fun ⟨s, named, _⟩ => unnamed named
      simp [SaysAddress, silent]
  · rename_i named
    simp only [Option.bind_eq_bind, Option.bind_eq_some_iff, only?_eq_some]
    constructor
    · rintro ⟨field, held, same⟩
      split at same
      · rename_i null
        cases same
        exact Or.inr (isNull_iff.1 null ▸ held)
      · obtain ⟨bytes, read, rfl⟩ := Option.map_eq_some_iff.1 same
        exact bytes?_eq_some.1 read
    · intro said
      cases address with
      | none =>
        rcases said with missing | null
        · exact absurd missing named
        · exact ⟨.null, null, rfl⟩
      | some bytes =>
        have ⟨s, held, _⟩ := said
        refine ⟨.text s, held, ?_⟩
        rw [if_neg (by exact Bool.false_ne_true), bytes?_eq_some.2 said, Option.map_some]

private theorem ofJson?_eq_some {j : Json} {file : KeyFile} :
    ofJson? j = some file ↔ file.IsSaid j := by
  unfold ofJson?
  simp only [Option.bind_eq_bind, Option.bind_eq_some_iff, only?_eq_some, text?_eq_some,
    bytes?_eq_some, nat?_eq_some, stretching?_eq_some, address?_eq_some]
  constructor
  · rintro ⟨_, identified, id, rfl, version, versioned, address, addressed, crypto, held, ciphertext,
      text, mac, code, _, cipher, _, rfl, params, stated, vector, start, stretching, stretched,
      complete⟩
    split at complete
    · rename_i same
      cases complete
      obtain rfl := beq_iff_eq.1 same
      exact ⟨⟨id, identified⟩, ⟨version, versioned⟩, addressed,
        ⟨crypto, held, text, code, cipher, ⟨params, stated, start⟩, stretched⟩⟩
    · cases complete
  · rintro ⟨⟨id, identified⟩, ⟨version, versioned⟩, addressed,
      ⟨crypto, held, text, code, cipher, ⟨params, stated, start⟩, stretched⟩⟩
    exact ⟨_, identified, id, rfl, version, versioned, _, addressed, crypto, held, _, text, _, code,
      _, cipher, _, rfl, params, stated, _, start, _, stretched, if_pos (beq_self_eq_true _)⟩

end KeyFile

/-- What stands at a path is the text of a key file. -/
def Entry.Reads (entry : Entry) (file : KeyFile) : Prop :=
  ∃ s j, entry = .file (Text.utf8 s) ∧ Json.parse? s = some j ∧ file.IsSaid j

theorem KeyFile.parse?_eq_some {content : Bytes} {file : KeyFile} :
    parse? content = some file ↔ (Entry.file content).Reads file := by
  unfold parse? Entry.Reads
  simp only [Option.bind_eq_bind, Option.bind_eq_some_iff, Text.ofUtf8?_eq_some_iff,
    ofJson?_eq_some, Entry.file.injEq]
  constructor
  · rintro ⟨s, rfl, j, parsed, said⟩
    exact ⟨s, j, rfl, parsed, said⟩
  · rintro ⟨s, j, rfl, parsed, said⟩
    exact ⟨s, rfl, j, parsed, said⟩

end NameRights
