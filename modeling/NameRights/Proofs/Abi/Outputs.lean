/- NameRights/Proofs/Abi/Outputs
   digest: Which types a form reads values of. Outputs of these types are read as they were
   written. -/

import NameRights.Abi.Shape
import NameRights.Proofs.Abi.RoundTrip

set_option autoImplicit false
set_option relaxedAutoImplicit false

namespace NameRights.Abi

open Result

/-- The types whose values a form reads. -/
inductive Shape.Fits : {α : Type} → Shape α → Kind → Prop where
  | bool : Fits .bool .bool
  | word : Fits .word (.uint 256)
  | address : Fits .address .address
  | hash : Fits .hash (.fixedBytes 32)
  | text : Fits .text .string

/-- The outputs that are read as a single value, or as a pair of values without offsets. -/
inductive Output.Fits : {α : Type} → Output α → List Kind → Prop where
  | single {α : Type} {shape : Shape α} {kind : Kind} (fits : shape.Fits kind) :
    Fits (.single shape) [kind]
  | pair {α β : Type} {first : Shape α} {second : Shape β} {kind other : Kind}
    (firstFits : first.Fits kind) (secondFits : second.Fits other)
    (static : Kind.anyDynamic [kind, other] = false) :
    Fits (.pair first second) [kind, other]

namespace Shape.Fits

variable {α : Type} {shape : Shape α} {kind : Kind} {v : Value}

private theorem isProper (fits : shape.Fits kind) : kind.isProper = true := by
  cases fits <;> rfl

private theorem exists_read (fits : shape.Fits kind) (belongs : v.Belongs kind) :
    ∃ a, shape.read v = .ok a ∧ shape.write a = v := by
  cases fits with
  | bool =>
    cases v with
    | bool b => exact ⟨b, rfl, rfl⟩
    | _ => cases belongs
  | word =>
    cases v with
    | uint w => exact ⟨w, rfl, rfl⟩
    | _ => cases belongs
  | address =>
    cases v with
    | address a => exact ⟨a, rfl, rfl⟩
    | _ => cases belongs
  | hash =>
    cases v with
    | fixedBytes b =>
      have size : b.length = 32 := belongs
      exact ⟨.ofBytes b, if_pos size, congrArg Value.fixedBytes (Hash.bytes_ofBytes size)⟩
    | _ => cases belongs
  | text =>
    cases v with
    | string s => exact ⟨s, rfl, rfl⟩
    | _ => cases belongs

private theorem compact (fits : shape.Fits kind) (belongs : v.Belongs kind)
    (short : ∀ s, v = .string s → (Text.utf8 s).length < 2 ^ 32) : v.Compact := by
  cases fits with
  | text =>
    cases v with
    | string s => exact short s rfl
    | _ => cases belongs
  | bool | word | address | hash =>
    cases v <;> trivial

end Shape.Fits

namespace Output

def write : {α : Type} → Output α → α → List Value
  | _, .single shape, a => [shape.write a]
  | _, .pair first second, (a, b) => [first.write a, second.write b]

namespace Fits

variable {α : Type} {output : Output α} {kinds : List Kind} {values : List Value}

theorem allProper (fits : output.Fits kinds) : Kind.allProper kinds = true := by
  cases fits with
  | single fits => simp [Kind.allProper, fits.isProper]
  | pair firstFits secondFits static =>
    simp [Kind.allProper, firstFits.isProper, secondFits.isProper]

theorem exists_read (fits : output.Fits kinds) (belong : Value.ListBelongs values kinds) :
    ∃ a, output.read values = .ok a ∧ output.write a = values := by
  cases fits with
  | single fits =>
    match values, belong with
    | [v], ⟨belongs, _⟩ =>
      obtain ⟨a, read, written⟩ := fits.exists_read belongs
      exact ⟨a, read, congrArg ([·]) written⟩
  | pair firstFits secondFits static =>
    match values, belong with
    | [v, w], ⟨firstBelongs, secondBelongs, _⟩ =>
      obtain ⟨a, firstRead, rfl⟩ := firstFits.exists_read firstBelongs
      obtain ⟨b, secondRead, rfl⟩ := secondFits.exists_read secondBelongs
      refine ⟨(a, b), ?_, rfl⟩
      simp only [Output.read, firstRead, secondRead, ok_bind]

theorem compact (fits : output.Fits kinds) (belong : Value.ListBelongs values kinds)
    (short : ∀ s, .string s ∈ values → (Text.utf8 s).length < 2 ^ 32) :
    Value.ListCompact values := by
  have proper := fits.allProper
  cases fits with
  | single fits =>
    match values, belong with
    | [v], ⟨belongs, _⟩ =>
      refine ⟨offsetsFit_singleton _, fits.compact belongs ?_, trivial⟩
      rintro s rfl
      exact short s (List.mem_singleton_self _)
  | pair firstFits secondFits static =>
    have inPlace := Value.anyDynamic_eq _ values belong proper
    rw [static] at inPlace
    have offsets : OffsetsFit (headsLength (parts values)) (parts values) :=
      offsetsFit_of_inPlace (isBehind_parts inPlace)
    match values, belong with
    | [v, w], ⟨firstBelongs, secondBelongs, _⟩ =>
      refine ⟨offsets, firstFits.compact firstBelongs ?_, secondFits.compact secondBelongs ?_,
        trivial⟩
      · rintro s rfl
        exact short s (List.mem_cons_self ..)
      · rintro s rfl
        exact short s (List.mem_cons_of_mem _ (List.mem_singleton_self _))

end Fits

end Output

end NameRights.Abi
