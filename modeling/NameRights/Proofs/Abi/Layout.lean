/- NameRights/Proofs/Abi/Layout
   digest: Where the parts of a coded list stand: in place, or behind offsets that fit. -/

import NameRights.Proofs.Abi.Placement

set_option autoImplicit false
set_option relaxedAutoImplicit false

namespace NameRights.Abi

open Bytes

def headsLength : List Part → Nat
  | [] => 0
  | part :: parts => part.headLength + headsLength parts

/-- The offsets of a list can be read, of which the first is `tail`. -/
def OffsetsFit : Nat → List Part → Prop
  | _, [] => True
  | tail, .inPlace _ :: parts => OffsetsFit tail parts
  | tail, .behind body :: parts => tail < 2 ^ 32 ∧ OffsetsFit (tail + body.length) parts

namespace Part

def isBehind : Part → Bool
  | inPlace _ => false
  | behind _ => true

/-- The part stands in `data` at `offset`, or behind the offset that stands there. -/
def Placed (data : Bytes) (offset : Nat) : Part → Prop
  | inPlace body => Stands body data offset
  | behind body => ∃ start < 2 ^ 32, Stands (word start) data offset ∧ Stands body data start

end Part

/-- The parts stand in `data` one after the other from `offset` on. -/
def AllPlaced (data : Bytes) : Nat → List Part → Prop
  | _, [] => True
  | offset, part :: parts =>
    part.Placed data offset ∧ AllPlaced data (offset + part.headLength) parts

theorem joinParts_eq (parts : List Part) :
    joinParts parts = heads (headsLength parts) parts ++ tails parts := by
  have same : parts.foldr (fun part length => part.headLength + length) 0 = headsLength parts := by
    induction parts with
    | nil => rfl
    | cons part parts ih => rw [List.foldr_cons, ih, headsLength]
  rw [joinParts, same]

theorem length_heads (tail : Nat) (parts : List Part) :
    (heads tail parts).length = headsLength parts := by
  induction parts generalizing tail with
  | nil => rfl
  | cons part parts ih =>
    cases part with
    | inPlace body => rw [heads, List.length_append, ih, headsLength, Part.headLength]
    | behind body => rw [heads, List.length_append, ih, headsLength, Part.headLength, length_word]

variable {data : Bytes} {offset start tail : Nat} {parts : List Part}

private theorem allPlaced_of_stands (head : Stands (heads tail parts) data offset)
    (rest : Stands (tails parts) data tail) (fit : OffsetsFit tail parts) :
    AllPlaced data offset parts := by
  induction parts generalizing offset tail with
  | nil => exact trivial
  | cons part parts ih =>
    cases part with
    | inPlace body => exact ⟨head.left, ih head.right rest fit⟩
    | behind body =>
      have next := head.right
      rw [length_word] at next
      exact ⟨⟨tail, fit.1, head.left, rest.left⟩, ih next rest.right fit.2⟩

private theorem allPlaced_of_inPlace (allInPlace : ∀ part ∈ parts, part.isBehind = false)
    (stands : Stands (joinParts parts) data offset) : AllPlaced data offset parts := by
  rw [joinParts_eq] at stands
  have head := stands.left
  generalize headsLength parts = tail at head
  clear stands
  induction parts generalizing offset tail with
  | nil => exact trivial
  | cons part parts ih =>
    have rest : ∀ part ∈ parts, part.isBehind = false :=
      fun part found => allInPlace part (List.mem_cons_of_mem _ found)
    cases part with
    | inPlace body => exact ⟨head.left, ih rest _ head.right⟩
    | behind body => exact absurd (allInPlace _ (List.mem_cons_self ..)) Bool.noConfusion

/-- A list with offsets stands as its parts do, counted from its start. -/
theorem allPlaced_drop (stands : Stands (joinParts parts) data start)
    (fit : OffsetsFit (headsLength parts) parts) : AllPlaced (data.drop start) 0 parts := by
  rw [joinParts_eq] at stands
  have rest := stands.right
  rw [length_heads] at rest
  exact allPlaced_of_stands stands.left.within rest.within fit

theorem headsLength_le (parts : List Part) : headsLength parts ≤ (joinParts parts).length := by
  rw [joinParts_eq, List.length_append, length_heads]
  omega

theorem length_joinParts (allInPlace : ∀ part ∈ parts, part.isBehind = false) :
    (joinParts parts).length = headsLength parts := by
  have noTail : tails parts = [] := by
    induction parts with
    | nil => rfl
    | cons part parts ih =>
      cases part with
      | inPlace body => exact ih fun part found => allInPlace part (List.mem_cons_of_mem _ found)
      | behind body => exact absurd (allInPlace _ (List.mem_cons_self ..)) Bool.noConfusion
  rw [joinParts_eq, noTail, List.append_nil, length_heads]

theorem offsetsFit_of_inPlace (allInPlace : ∀ part ∈ parts, part.isBehind = false) :
    OffsetsFit tail parts := by
  induction parts with
  | nil => trivial
  | cons part parts ih =>
    cases part with
    | inPlace body => exact ih fun part found => allInPlace part (List.mem_cons_of_mem _ found)
    | behind body => exact absurd (allInPlace _ (List.mem_cons_self ..)) Bool.noConfusion

theorem offsetsFit_singleton (part : Part) : OffsetsFit (headsLength [part]) [part] := by
  cases part with
  | inPlace body => trivial
  | behind body => exact ⟨show 32 < 2 ^ 32 by decide, trivial⟩

/-- A list is found where it stands: in place, or behind an offset. -/
theorem listAt_of_placed {dynamic : Bool}
    (behind : dynamic = true → OffsetsFit (headsLength parts) parts)
    (inPlace : dynamic = false → ∀ part ∈ parts, part.isBehind = false)
    (placed : Part.Placed data offset
      (if dynamic = true then .behind (joinParts parts) else .inPlace (joinParts parts))) :
    ∃ body first, listAt dynamic data offset = .ok (body, first) ∧ AllPlaced body first parts ∧
      (dynamic = false → first = offset) := by
  cases dynamic with
  | false => exact ⟨data, offset, rfl, allPlaced_of_inPlace (inPlace rfl) placed, fun _ => rfl⟩
  | true =>
    obtain ⟨start, near, offsetStands, stands⟩ := placed
    exact ⟨data.drop start, 0, listAt_behind near stands.1 offsetStands,
      allPlaced_drop stands (behind rfl), Bool.noConfusion⟩

end NameRights.Abi
