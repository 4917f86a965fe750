/- NameRights/Proofs/Key/Unlocking
   digest: Which of its ends the unlocking of a key file comes to, whatever the file says. -/

import Mathlib.Algebra.Group.Nat.Defs
import NameRights.Proofs.Key.Reading

set_option autoImplicit false
set_option relaxedAutoImplicit false

namespace NameRights

namespace Stretching

/-- The demands that are met. Any number of rounds is; memory has to have at least two blocks, fewer
than `2 ^ (16 r)`, and fewer than `2 ^ 30` widths of a block in all its lanes. -/
def IsBounded : Stretching → Prop
  | .rounds _ _ => True
  | .memory n r p _ => 2 ≤ n ∧ n < 2 ^ (16 * r) ∧ 0 < p ∧ r * p < 2 ^ 30

def derived (password : Bytes) : Stretching → Bytes
  | .rounds count salt => Hmac.stretch password salt count 32
  | .memory n r p salt => Scrypt.stretch password salt ⟨n.log2, r, p⟩ 32

private theorem isBounded_memory_iff {n r p : Nat} {salt : Bytes} :
    IsBounded (.memory n r p salt) ↔ ¬ (n.log2 = 0 ∨ r = 0 ∨ p = 0 ∨ n.log2 ≥ 16 * r ∨
      p > (UInt32.size - 2) * 32 / (128 * r)) := by
  have blocks : ¬ n.log2 = 0 ↔ 2 ≤ n := by
    by_cases zero : n = 0
    · subst zero
      decide
    · have one := Nat.le_log2 zero (k:=1)
      omega
  have few (several : 2 ≤ n) : ¬ n.log2 ≥ 16 * r ↔ n < 2 ^ (16 * r) := by
    rw [ge_iff_le, Nat.le_log2 (by omega), Nat.not_le]
  have wide (several : 2 ≤ n) (below : n < 2 ^ (16 * r)) : r ≠ 0 := by
    rintro rfl
    rw [Nat.mul_zero, Nat.pow_zero] at below
    omega
  have lanes (positive : r ≠ 0) :
      ¬ p > (UInt32.size - 2) * 32 / (128 * r) ↔ r * p < 2 ^ 30 := by
    have product : p * (128 * r) = 128 * (r * p) := by rw [Nat.mul_left_comm, Nat.mul_comm p]
    rw [gt_iff_lt, Nat.not_lt, Nat.le_div_iff_mul_le (by omega), product]
    generalize r * p = width
    simp only [UInt32.size]
    omega
  simp only [IsBounded, not_or, blocks]
  constructor
  · rintro ⟨several, below, used, narrow⟩
    have positive := wide several below
    exact ⟨several, positive, Nat.ne_of_gt used, (few several).2 below, (lanes positive).2 narrow⟩
  · rintro ⟨several, positive, used, below, narrow⟩
    exact ⟨several, (few several).1 below, Nat.pos_of_ne_zero used, (lanes positive).1 narrow⟩

private theorem stretch_eq_some {password key : Bytes} {stretching : Stretching} :
    KeyFile.stretch password stretching = some key ↔
      stretching.IsBounded ∧ stretching.derived password = key := by
  cases stretching with
  | rounds count salt =>
    simp only [KeyFile.stretch, IsBounded, derived, Option.some.injEq, true_and]
  | memory n r p salt =>
    simp only [KeyFile.stretch, Option.ite_none_left_eq_some, isBounded_memory_iff, derived,
      Option.some.injEq]

end Stretching

private theorem SecretKey.ofBytes?_eq_some {bytes : Bytes} {key : SecretKey} :
    ofBytes? bytes = some key ↔ bytes.length = 32 ∧ bytes.toNat = key.scalar := by
  unfold ofBytes?
  constructor
  · intro held
    split at held
    · rename_i sized
      split at held
      · cases held
        exact ⟨sized, rfl⟩
      · cases held
    · cases held
  · rintro ⟨sized, same⟩
    obtain ⟨scalar, pos, lt_order⟩ := key
    subst same
    rw [if_pos sized, dif_pos ⟨pos, lt_order⟩]

private theorem SecretKey.ofBytes?_eq_none {bytes : Bytes} :
    ofBytes? bytes = none ↔
      ¬ (bytes.length = 32 ∧ 0 < bytes.toNat ∧ bytes.toNat < Secp256k1.order) := by
  rw [Option.eq_none_iff_forall_ne_some]
  simp only [ne_eq, ofBytes?_eq_some]
  constructor
  · rintro none ⟨sized, pos, lt_order⟩
    exact none ⟨bytes.toNat, pos, lt_order⟩ ⟨sized, rfl⟩
  · rintro unfit key ⟨sized, same⟩
    exact unfit ⟨sized, same ▸ key.pos, same ▸ key.lt_order⟩

namespace KeyFile

/-- The password is the one of the file: the demands of the file are met, and the code over its
ciphertext comes out right. The vector is not under this code. -/
def Admits (file : KeyFile) (password : Bytes) : Prop :=
  file.stretching.IsBounded ∧
    Keccak.hash ((file.stretching.derived password).drop 16 ++ file.ciphertext) = file.mac

/-- What the ciphertext deciphers to. -/
def plain (file : KeyFile) (password : Bytes) : Bytes :=
  Aes.applyCounter ((file.stretching.derived password).take 16) file.vector file.ciphertext

variable {file : KeyFile} {password : Bytes}

private theorem decipher_of_not_admits (locked : ¬ file.Admits password) :
    file.decipher password = .error .undecipherable := by
  unfold decipher
  split
  · rfl
  · rename_i key stretched
    obtain ⟨bounded, rfl⟩ := Stretching.stretch_eq_some.1 stretched
    rw [if_neg fun code => locked ⟨bounded, code⟩]

private theorem decipher_of_admits (admits : file.Admits password) :
    file.decipher password =
      if file.vector.length = 16 then .ok (file.plain password)
      else .aborted .keyFileVectorLength := by
  obtain ⟨bounded, code⟩ := admits
  simp only [decipher, Stretching.stretch_eq_some.2 ⟨bounded, rfl⟩, if_pos code, plain]

end KeyFile

namespace Entry

variable {entry : Entry} {file : KeyFile} {password : String}

/-- How the unlocking of what stands at a path ends. -/
inductive Unlocks (password : String) (entry : Entry) : Outcome KeyFault SecretKey → Prop
  | unopened (missing : entry = .missing) : Unlocks password entry (.error .unopened)
  | unreadable (present : entry ≠ .missing) (unread : ∀ file, ¬ entry.Reads file) :
      Unlocks password entry (.error .unreadable)
  | undecipherable {file : KeyFile} (reads : entry.Reads file)
      (locked : ¬ file.Admits (Text.utf8 password)) :
      Unlocks password entry (.error .undecipherable)
  | misfit {file : KeyFile} (reads : entry.Reads file) (admits : file.Admits (Text.utf8 password))
      (length : file.vector.length ≠ 16) : Unlocks password entry (.aborted .keyFileVectorLength)
  | notSecret {file : KeyFile} (reads : entry.Reads file)
      (admits : file.Admits (Text.utf8 password)) (length : file.vector.length = 16)
      (unfit : SecretKey.ofBytes? (file.plain (Text.utf8 password)) = none) :
      Unlocks password entry (.error .notSecret)
  | key {file : KeyFile} {key : SecretKey} (reads : entry.Reads file)
      (admits : file.Admits (Text.utf8 password)) (length : file.vector.length = 16)
      (secret : SecretKey.ofBytes? (file.plain (Text.utf8 password)) = some key) :
      Unlocks password entry (.ok key)

private theorem unlock_of_reads (reads : entry.Reads file) :
    entry.unlock password = file.unlock (Text.utf8 password) := by
  have ⟨s, _, text, _⟩ := reads
  subst text
  rw [unlock, KeyFile.parse?_eq_some.2 reads]

private theorem unlock_of_unread (present : entry ≠ .missing) (unread : ∀ file, ¬ entry.Reads file)
    :
    entry.unlock password = .error .unreadable := by
  cases entry with
  | missing => exact absurd rfl present
  | directory => rfl
  | file content =>
    have unparsed : KeyFile.parse? content = none := by
      apply Option.eq_none_iff_forall_ne_some.2
      intro file parsed
      exact unread file (KeyFile.parse?_eq_some.1 parsed)
    rw [unlock, unparsed]

private theorem unlocks_unlock (password : String) (entry : Entry) :
    entry.Unlocks password (entry.unlock password) := by
  by_cases missing : entry = .missing
  · subst missing
    exact .unopened rfl
  by_cases read : ∃ file, entry.Reads file
  · obtain ⟨file, reads⟩ := read
    rw [unlock_of_reads reads, KeyFile.unlock]
    by_cases admits : file.Admits (Text.utf8 password)
    · rw [KeyFile.decipher_of_admits admits]
      by_cases length : file.vector.length = 16
      · rw [if_pos length]
        simp only [bind, Outcome.bind]
        split
        · exact .key reads admits length ‹_›
        · exact .notSecret reads admits length ‹_›
      · rw [if_neg length]
        exact .misfit reads admits length
    · rw [KeyFile.decipher_of_not_admits admits]
      exact .undecipherable reads admits
  · have unread := not_exists.1 read
    rw [unlock_of_unread missing unread]
    exact .unreadable missing unread

private theorem Unlocks.unlock_eq {outcome : Outcome KeyFault SecretKey}
    (unlocks : entry.Unlocks password outcome) : entry.unlock password = outcome := by
  cases unlocks with
  | unopened missing =>
    subst missing
    rfl
  | unreadable present unread => exact unlock_of_unread present unread
  | undecipherable reads locked =>
    rw [unlock_of_reads reads, KeyFile.unlock, KeyFile.decipher_of_not_admits locked]
    rfl
  | misfit reads admits length =>
    rw [unlock_of_reads reads, KeyFile.unlock, KeyFile.decipher_of_admits admits, if_neg length]
    rfl
  | notSecret reads admits length unfit =>
    rw [unlock_of_reads reads, KeyFile.unlock, KeyFile.decipher_of_admits admits, if_pos length]
    simp only [bind, Outcome.bind, unfit]
  | key reads admits length secret =>
    rw [unlock_of_reads reads, KeyFile.unlock, KeyFile.decipher_of_admits admits, if_pos length]
    simp only [bind, Outcome.bind, secret]
    rfl

private theorem unlock_eq_iff {outcome : Outcome KeyFault SecretKey} :
    entry.unlock password = outcome ↔ entry.Unlocks password outcome := by
  constructor
  · rintro rfl
    exact unlocks_unlock password entry
  · exact Unlocks.unlock_eq

/-- What a password makes of an entry. There is nothing to open if nothing stands there, and nothing to
read if it is no key file. It is not deciphered exactly if the password is not admitted, and otherwise
the ciphertext holds a secret or does not. What is never reported is a vector of another length than a
block: it is not under the code that admits the password, and ends the program. -/
theorem unlock_exact (entry : Entry) (password : String) :
    (entry.unlock password = .error .unopened ↔ entry = .missing) ∧
    (entry.unlock password = .error .unreadable ↔
      entry ≠ .missing ∧ ∀ file, ¬ entry.Reads file) ∧
    (entry.unlock password = .error .undecipherable ↔
      ∃ file, entry.Reads file ∧ ¬ file.Admits (Text.utf8 password)) ∧
    (entry.unlock password = .error .notSecret ↔
      ∃ file, entry.Reads file ∧ file.Admits (Text.utf8 password) ∧ file.vector.length = 16 ∧
        ¬ ((file.plain (Text.utf8 password)).length = 32 ∧
          0 < (file.plain (Text.utf8 password)).toNat ∧
          (file.plain (Text.utf8 password)).toNat < Secp256k1.order)) ∧
    (∀ key, entry.unlock password = .ok key ↔
      ∃ file, entry.Reads file ∧ file.Admits (Text.utf8 password) ∧ file.vector.length = 16 ∧
        (file.plain (Text.utf8 password)).length = 32 ∧
        (file.plain (Text.utf8 password)).toNat = key.scalar) ∧
    (∀ reason, entry.unlock password = .aborted reason ↔ reason = .keyFileVectorLength ∧
      ∃ file, entry.Reads file ∧ file.Admits (Text.utf8 password) ∧
        file.vector.length ≠ 16) := by
  simp only [unlock_eq_iff, ← SecretKey.ofBytes?_eq_none, ← SecretKey.ofBytes?_eq_some]
  refine ⟨?unopened, ?unreadable, ?undecipherable, ?notSecret, ?key, ?aborted⟩
  case unopened =>
    constructor
    · rintro ⟨missing⟩
      exact missing
    · exact .unopened
  case unreadable =>
    constructor
    · intro unlocks
      cases unlocks with
      | unreadable present unread => exact ⟨present, unread⟩
    · rintro ⟨present, unread⟩
      exact .unreadable present unread
  case undecipherable =>
    constructor
    · intro unlocks
      cases unlocks with
      | undecipherable reads locked => exact ⟨_, reads, locked⟩
    · rintro ⟨file, reads, locked⟩
      exact .undecipherable reads locked
  case notSecret =>
    constructor
    · intro unlocks
      cases unlocks with
      | notSecret reads admits length unfit => exact ⟨_, reads, admits, length, unfit⟩
    · rintro ⟨file, reads, admits, length, unfit⟩
      exact .notSecret reads admits length unfit
  case key =>
    intro key
    constructor
    · intro unlocks
      cases unlocks with
      | key reads admits length secret => exact ⟨_, reads, admits, length, secret⟩
    · rintro ⟨file, reads, admits, length, secret⟩
      exact .key reads admits length secret
  case aborted =>
    intro reason
    constructor
    · intro unlocks
      cases unlocks with
      | misfit reads admits length => exact ⟨rfl, _, reads, admits, length⟩
    · rintro ⟨rfl, file, reads, admits, length⟩
      exact .misfit reads admits length

end Entry

end NameRights
