/- NameRights/Proofs/Abi/Passing
   digest: Which values the check before a call lets pass for a type, and which it breaks off at. -/

import NameRights.Proofs.Abi.Typing

set_option autoImplicit false
set_option relaxedAutoImplicit false

namespace NameRights.Abi.Value

mutual

/-- The value is one of the type, where a byte string of a fixed length may be shorter. Tuples have
all the fields of their type, or lack the last of them if that is allowed. -/
def Suits (lacking : Bool) : Value → Kind → Prop
  | address _, .address => True
  | fixedBytes b, .fixedBytes size => b.length ≤ size
  | bytes _, .bytes => True
  | int _, .int _ => True
  | uint _, .uint _ => True
  | bool _, .bool => True
  | string _, .string => True
  | fixedArray items, .fixedArray kind size => size = items.length ∧ AllSuit lacking items kind
  | array items, .array kind => AllSuit lacking items kind
  | tuple fields, .tuple kinds => ListSuits lacking fields kinds
  | _, _ => False

def AllSuit (lacking : Bool) : List Value → Kind → Prop
  | [], _ => True
  | v :: vs, kind => v.Suits lacking kind ∧ AllSuit lacking vs kind

def ListSuits (lacking : Bool) : List Value → List Kind → Prop
  | [], [] => True
  | [], _ :: _ => lacking = true
  | v :: vs, kind :: kinds => v.Suits lacking kind ∧ ListSuits lacking vs kinds
  | _ :: _, [] => False

end

mutual

/-- The check comes to a tuple with more fields than its type, and all that it has looked at before
is of its type. -/
def Overruns : Value → Kind → Prop
  | fixedArray items, .fixedArray kind size => size = items.length ∧ SomeOverruns items kind
  | array items, .array kind => SomeOverruns items kind
  | tuple fields, .tuple kinds => ListOverruns fields kinds
  | _, _ => False

def SomeOverruns : List Value → Kind → Prop
  | [], _ => False
  | v :: vs, kind => v.Overruns kind ∨ (v.Suits true kind ∧ SomeOverruns vs kind)

def ListOverruns : List Value → List Kind → Prop
  | [], _ => False
  | _ :: _, [] => True
  | v :: vs, kind :: kinds => v.Overruns kind ∨ (v.Suits true kind ∧ ListOverruns vs kinds)

end

/-- What a check comes to, of which one knows when it lets pass and when it breaks off. -/
inductive Verdict (passes overruns : Prop) : Except Abort Bool → Prop
  | pass (suits : passes) (within : ¬ overruns) : Verdict passes overruns (.ok true)
  | refuse (unfit : ¬ passes) (within : ¬ overruns) : Verdict passes overruns (.ok false)
  | overrun (unfit : ¬ passes) (exceeds : overruns) : Verdict passes overruns (.error .tupleTooLong)

private theorem Verdict.then {p q p' q' : Prop} {first second : Except Abort Bool}
    (one : Verdict p q first) (two : Verdict p' q' second) :
    Verdict (p ∧ p') (q ∨ (p ∧ q'))
      (first >>= fun passed => if passed then second else .ok false) := by
  cases one with
  | refuse unfit within =>
    refine .refuse (fun both => unfit both.1) ?_
    rintro (exceeds | ⟨suits, -⟩)
    · exact within exceeds
    · exact unfit suits
  | overrun unfit exceeds => exact .overrun (fun both => unfit both.1) (Or.inl exceeds)
  | pass suits within =>
    change Verdict _ _ second
    cases two with
    | pass suits' within' =>
      refine .pass ⟨suits, suits'⟩ ?_
      rintro (exceeds | ⟨-, exceeds⟩)
      · exact within exceeds
      · exact within' exceeds
    | refuse unfit' within' =>
      refine .refuse (fun both => unfit' both.2) ?_
      rintro (exceeds | ⟨-, exceeds⟩)
      · exact within exceeds
      · exact within' exceeds
    | overrun unfit' exceeds' => exact .overrun (fun both => unfit' both.2) (Or.inr ⟨suits, exceeds'⟩)

private theorem Verdict.guard {c p q : Prop} [Decidable c] {check : Except Abort Bool}
    (verdict : Verdict p q check) :
    Verdict (c ∧ p) (c ∧ q) (if c then check else .ok false) := by
  by_cases holds : c
  · simpa only [holds, true_and, if_true] using verdict
  · rw [if_neg holds]
    exact .refuse (fun both => holds both.1) fun both => holds both.1

mutual

private theorem fits_verdict (v : Value) (kind : Kind) :
    Verdict (v.Suits true kind) (v.Overruns kind) (v.fits kind) := by
  cases v with
  | array items =>
    cases kind with
    | array kind => exact allFit_verdict items kind
    | _ => exact .refuse id id
  | fixedArray items =>
    cases kind with
    | fixedArray kind size => exact (allFit_verdict items kind).guard
    | _ => exact .refuse id id
  | tuple fields =>
    cases kind with
    | tuple kinds => exact fieldsFit_verdict fields kinds
    | _ => exact .refuse id id
  | fixedBytes b =>
    cases kind with
    | fixedBytes size =>
      by_cases short : b.length ≤ size
      · simp only [fits, short, decide_true]
        exact .pass short id
      · simp only [fits, short, decide_false]
        exact .refuse short id
    | _ => exact .refuse id id
  | address | bytes | int | uint | bool | string =>
    cases kind <;> first | exact .refuse id id | exact .pass trivial id

private theorem allFit_verdict (vs : List Value) (kind : Kind) :
    Verdict (AllSuit true vs kind) (SomeOverruns vs kind) (allFit vs kind) := by
  cases vs with
  | nil => exact .pass trivial id
  | cons v vs => exact (fits_verdict v kind).then (allFit_verdict vs kind)

private theorem fieldsFit_verdict (vs : List Value) (kinds : List Kind) :
    Verdict (ListSuits true vs kinds) (ListOverruns vs kinds) (fieldsFit vs kinds) := by
  cases vs with
  | nil =>
    cases kinds with
    | nil => exact .pass trivial id
    | cons kind kinds => exact .pass rfl id
  | cons v vs =>
    cases kinds with
    | nil => exact .overrun id trivial
    | cons kind kinds => exact (fits_verdict v kind).then (fieldsFit_verdict vs kinds)

end

theorem listFits_verdict (vs : List Value) (kinds : List Kind) :
    Verdict (vs.length = kinds.length ∧ ListSuits true vs kinds)
      (vs.length = kinds.length ∧ ListOverruns vs kinds) (listFits vs kinds) :=
  (fieldsFit_verdict vs kinds).guard

mutual

private theorem suits_of_full (v : Value) (kind : Kind) (full : v.Suits false kind) :
    v.Suits true kind := by
  cases v with
  | array items =>
    cases kind with
    | array kind => exact allSuit_of_full items kind full
    | _ => exact full.elim
  | fixedArray items =>
    cases kind with
    | fixedArray kind size => exact ⟨full.1, allSuit_of_full items kind full.2⟩
    | _ => exact full.elim
  | tuple fields =>
    cases kind with
    | tuple kinds => exact listSuits_of_full fields kinds full
    | _ => exact full.elim
  | fixedBytes | address | bytes | int | uint | bool | string =>
    cases kind <;> exact full

private theorem allSuit_of_full (vs : List Value) (kind : Kind) (full : AllSuit false vs kind) :
    AllSuit true vs kind := by
  cases vs with
  | nil => trivial
  | cons v vs => exact ⟨suits_of_full v kind full.1, allSuit_of_full vs kind full.2⟩

theorem listSuits_of_full (vs : List Value) (kinds : List Kind)
    (full : ListSuits false vs kinds) : ListSuits true vs kinds := by
  cases vs with
  | nil =>
    cases kinds with
    | nil => trivial
    | cons kind kinds => rfl
  | cons v vs =>
    cases kinds with
    | nil => exact full.elim
    | cons kind kinds => exact ⟨suits_of_full v kind full.1, listSuits_of_full vs kinds full.2⟩

end

theorem ListSuits.length_eq {vs : List Value} {kinds : List Kind} (full : ListSuits false vs kinds) :
    vs.length = kinds.length := by
  induction vs generalizing kinds with
  | nil =>
    cases kinds with
    | nil => rfl
    | cons kind kinds => cases full
  | cons v vs ih =>
    cases kinds with
    | nil => exact full.elim
    | cons kind kinds => rw [List.length_cons, List.length_cons, ih full.2]

end NameRights.Abi.Value
