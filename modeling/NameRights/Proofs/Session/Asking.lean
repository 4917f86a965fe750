/- NameRights/Proofs/Session/Asking
   digest: The questions a program may ask and the values it may end with, through sequencing. -/

import NameRights.Session

set_option autoImplicit false
set_option relaxedAutoImplicit false

namespace NameRights.Session

variable {Q : Type} {A : Q → Type} {ε α β : Type}

/-- Under some answers to the questions before it, the program asks `r`. -/
def Asks : Session Q A ε α → Q → Prop
  | .done _, _ => False
  | .ask q next, r => q = r ∨ ∃ answer, (next answer).Asks r

/-- Under some answers to all its questions, the program ends with the value `a`. -/
def Yields : Session Q A ε α → α → Prop
  | .done (.ok b), a => b = a
  | .done (.error _), _ => False
  | .done (.aborted _), _ => False
  | .ask _ next, a => ∃ answer, (next answer).Yields a

@[simp] theorem asks_done (result : Outcome ε α) (r : Q) :
    ¬ (Session.done result : Session Q A ε α).Asks r := id

@[simp] theorem asks_ask (q r : Q) (next : A q → Session Q A ε α) :
    (Session.ask q next).Asks r ↔ q = r ∨ ∃ answer, (next answer).Asks r := Iff.rfl

@[simp] theorem asks_pure (a : α) (r : Q) : ¬ (pure a : Session Q A ε α).Asks r := id

@[simp] theorem yields_pure (a b : α) : (pure a : Session Q A ε α).Yields b ↔ a = b := Iff.rfl

@[simp] theorem yields_ask (q : Q) (next : A q → Session Q A ε α) (a : α) :
    (Session.ask q next).Yields a ↔ ∃ answer, (next answer).Yields a := Iff.rfl

theorem yields_done (result : Outcome ε α) (a : α) :
    (Session.done result : Session Q A ε α).Yields a ↔ result = .ok a := by
  cases result with
  | ok b => simp [Yields]
  | error e => simp [Yields]
  | aborted reason => simp [Yields]

/-- A question of a sequence is asked by its first program, or by its second after the first one
has ended with a value. -/
theorem asks_bind (s : Session Q A ε α) (f : α → Session Q A ε β) (r : Q) :
    (s >>= f).Asks r ↔ s.Asks r ∨ ∃ a, s.Yields a ∧ (f a).Asks r := by
  change (s.bind f).Asks r ↔ _
  induction s with
  | done result => cases result <;> simp [bind, Asks, Yields]
  | ask q next ih =>
    simp only [bind, asks_ask, yields_ask, ih]
    constructor
    · rintro (rfl | ⟨answer, asked | ⟨a, yielded, asked⟩⟩)
      · exact Or.inl (Or.inl rfl)
      · exact Or.inl (Or.inr ⟨answer, asked⟩)
      · exact Or.inr ⟨a, ⟨answer, yielded⟩, asked⟩
    · rintro ((rfl | ⟨answer, asked⟩) | ⟨a, ⟨answer, yielded⟩, asked⟩)
      · exact Or.inl rfl
      · exact Or.inr ⟨answer, Or.inl asked⟩
      · exact Or.inr ⟨answer, Or.inr ⟨a, yielded, asked⟩⟩

theorem yields_bind (s : Session Q A ε α) (f : α → Session Q A ε β) (b : β) :
    (s >>= f).Yields b ↔ ∃ a, s.Yields a ∧ (f a).Yields b := by
  change (s.bind f).Yields b ↔ _
  induction s with
  | done result => cases result <;> simp [bind, Yields]
  | ask q next ih =>
    simp only [bind, yields_ask, ih]
    constructor
    · rintro ⟨answer, a, yielded, rest⟩
      exact ⟨a, ⟨answer, yielded⟩, rest⟩
    · rintro ⟨a, ⟨answer, yielded⟩, rest⟩
      exact ⟨answer, a, yielded, rest⟩

/-- A program whose questions are answered by finer ones ends with nothing that it could not end
with before. -/
theorem yields_of_refine {P : Type} {B : P → Type} {answer : (q : Q) → Session P B ε (A q)}
    {s : Session Q A ε α} {a : α} (yielded : (s.refine answer).Yields a) : s.Yields a := by
  induction s with
  | done result => exact (yields_done result a).2 ((yields_done result a).1 yielded)
  | ask q next ih =>
    obtain ⟨b, -, rest⟩ := (yields_bind _ _ _).1 yielded
    exact ⟨b, ih b rest⟩

end NameRights.Session
