/- NameRights/Proofs/Command/Shown
   digest: The texts that records are shown by, and the line feeds in them. -/

import Mathlib.Data.List.Forall2
import NameRights.Command.Watch
import NameRights.Proofs.Text.Numeral

set_option autoImplicit false
set_option relaxedAutoImplicit false

namespace NameRights.Command

/-- What stands for the block of a log, which may not be known. -/
inductive ShowsBlock : Option Count → String → Prop
  | unknown : ShowsBlock none "None"
  | known (n : Count) : ShowsBlock (some n) ("Some(" ++ toString n.toNat ++ ")")

/-- The names that the contracts are shown by. -/
inductive Titles : Contract → String → Prop
  | registry : Titles .registry "DcnRegistry"
  | privilege : Titles .privilege "MultiPrivilege"

/-- The text that shows a registration. The name stands in it as it is. -/
inductive ShowsRegistration (r : NameRegistered) : String → Prop
  | intro {block : String} (stands : ShowsBlock r.raw.blockNumber block) :
      ShowsRegistration r ("NameRegistered name=" ++ r.name ++ " owner=" ++ r.owner.hex ++
        " expires=" ++ toString r.expires.toNat ++ " block=" ++ block ++ "\n")

/-- The text that shows an assignment of a privilege. -/
inductive ShowsAssignment (r : PrivilegeAssigned) : String → Prop
  | intro {block : String} (stands : ShowsBlock r.raw.blockNumber block) :
      ShowsAssignment r ("PrivilegeAssigned token=" ++ toString r.tokenId.toNat ++ " privilege=" ++
        toString r.privilegeId.toNat ++ " user=" ++ r.user.hex ++ " expires=" ++
        toString r.expires.toNat ++ " block=" ++ block ++ "\n")

/-- The text that shows a transfer at a contract with a title. -/
inductive ShowsTransfer (title : String) (r : Transfer) : String → Prop
  | intro {block : String} (stands : ShowsBlock r.raw.blockNumber block) :
      ShowsTransfer title r (title ++ " Transfer from=" ++ r.source.hex ++ " to=" ++ r.target.hex ++
        " token=" ++ toString r.tokenId.toNat ++ " block=" ++ block ++ "\n")

/-- What a contract with a title is warned of when its watch has ended. -/
inductive Warns (title : String) : Except ContractError Unit → List Act → Prop
  | ended : Warns title (.ok ()) []
  | failed (e : ContractError) :
      Warns title (.error e) [.warn (title ++ " watch failed: " ++ e.message ++ "\n")]

private theorem showsBlock_blockText (n : Option Count) : ShowsBlock n (blockText n) := by
  cases n with
  | none => exact .unknown
  | some n => exact .known n

theorem showsRegistration_line (r : NameRegistered) :
    ShowsRegistration r (registrationLine r ++ "\n") :=
  .intro (showsBlock_blockText _)

theorem showsAssignment_line (r : PrivilegeAssigned) :
    ShowsAssignment r (assignmentLine r ++ "\n") :=
  .intro (showsBlock_blockText _)

theorem titles_name (contract : Contract) : Titles contract contract.name := by
  cases contract with
  | registry => exact .registry
  | privilege => exact .privilege

theorem showsTransfer_line (contract : Contract) (r : Transfer) :
    ShowsTransfer contract.name r (Watching.transferLine contract r ++ "\n") :=
  .intro (showsBlock_blockText _)

theorem forall₂_map_line {α : Type} {Shows : α → String → Prop} {line : α → String}
    (shows_line : ∀ r, Shows r (line r)) (records : List α) :
    List.Forall₂ Shows records (records.map line) :=
  List.forall₂_map_right_iff.2 (List.forall₂_same.2 fun r _ => shows_line r)

/-- The line feeds in a text. -/
def feeds (text : String) : Nat := text.toList.count '\n'

private theorem feeds_append (s t : String) : feeds (s ++ t) = feeds s + feeds t := by
  rw [feeds, String.toList_append, List.count_append, feeds, feeds]

private theorem feeds_digits {base n : Nat} {cs : List Char} (small : base ≤ 16)
    (digits : Text.AreDigits base cs n) : cs.count '\n' = 0 := by
  apply List.count_eq_zero.2
  intro member
  obtain ⟨d, below, digit⟩ := digits.exists_digit member
  have read := Text.isDigit_sixteen_iff.1 ⟨Nat.lt_of_lt_of_le below small, digit⟩
  cases read

private theorem feeds_toString (n : Nat) : feeds (toString n) = 0 := by
  have digits : Text.AreDigits 10 (toString n).toList n := by
    have written := Text.areDigits_toDigits (by decide) (by decide : 10 ≤ 16) n
    simpa using written
  exact feeds_digits (by decide) digits

private theorem feeds_hex (a : Address) : feeds a.hex = 0 := by
  have digits := (Hex.spells_digits a.bytes).areDigits
  simp [feeds, Address.hex, Hex.text, feeds_digits (Nat.le_refl 16) digits]

private theorem ShowsBlock.feeds {n : Option Count} {block : String} (shows : ShowsBlock n block) :
    feeds block = 0 := by
  cases shows with
  | unknown => decide
  | known n =>
    rw [feeds_append, feeds_append, feeds_toString]
    decide

/-- A text of some lines, each with its line feed. -/
def HasLines (count : Nat) (text : String) : Prop :=
  feeds text = count ∧ ∃ front, text = front ++ "\n"

/-- A registration is shown by one line, and by one more for each line feed in the name. -/
theorem ShowsRegistration.hasLines {r : NameRegistered} {text : String}
    (shows : ShowsRegistration r text) : HasLines (1 + feeds r.name) text := by
  obtain ⟨stands⟩ := shows
  refine ⟨?_, _, rfl⟩
  simp only [feeds_append, feeds_hex, feeds_toString, stands.feeds]
  have plain : feeds "NameRegistered name=" = 0 ∧ feeds " owner=" = 0 ∧ feeds " expires=" = 0 ∧
      feeds " block=" = 0 ∧ feeds "\n" = 1 := by decide
  omega

theorem ShowsAssignment.hasLines {r : PrivilegeAssigned} {text : String}
    (shows : ShowsAssignment r text) : HasLines 1 text := by
  obtain ⟨stands⟩ := shows
  refine ⟨?_, _, rfl⟩
  simp only [feeds_append, feeds_hex, feeds_toString, stands.feeds]
  have plain : feeds "PrivilegeAssigned token=" = 0 ∧ feeds " privilege=" = 0 ∧ feeds " user=" = 0 ∧
      feeds " expires=" = 0 ∧ feeds " block=" = 0 ∧ feeds "\n" = 1 := by decide
  omega

end NameRights.Command
