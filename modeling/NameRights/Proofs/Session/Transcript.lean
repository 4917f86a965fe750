/- NameRights/Proofs/Session/Transcript
   digest: The questions of a program with the answers they were given, through sequencing. -/

import NameRights.Session

set_option autoImplicit false
set_option relaxedAutoImplicit false

namespace NameRights.Session

variable {Q R ε α β σ : Type}

section Laws

variable {A : Q → Type} {γ : Type}

private theorem bind_ok (p : Session Q A ε α) : (p.bind fun a => .done (.ok a)) = p := by
  induction p with
  | done x => cases x <;> rfl
  | ask q next ih => simp only [bind, ih]

private theorem bind_bind (p : Session Q A ε α) (f : α → Session Q A ε β)
    (g : β → Session Q A ε γ) : (p.bind f).bind g = p.bind fun a => (f a).bind g := by
  induction p with
  | done x => cases x <;> rfl
  | ask q next ih => simp only [bind, ih]

instance : LawfulMonad (Session Q A ε) := .mk' _ bind_ok (fun _ _ => rfl) bind_bind

/-- Behind a value that is reached the rest of a sequence runs from where it was reached. -/
theorem run_bind {answer : (q : Q) → σ → A q × σ} {p : Session Q A ε α} {s s' : σ}
    {asked : List Q} {a : α} (reached : p.run answer s = (asked, .ok a, s'))
    (f : α → Session Q A ε β) :
    (p >>= f).run answer s = (asked ++ ((f a).run answer s').1, ((f a).run answer s').2) := by
  change (p.bind f).run answer s = _
  induction p generalizing s asked with
  | done x =>
    cases reached
    rfl
  | ask q next ih =>
    obtain ⟨others, x, last, run⟩ : ∃ others x last,
        (next (answer q s).1).run answer (answer q s).2 = (others, x, last) := ⟨_, _, _, rfl⟩
    simp only [Session.run, run] at reached
    cases reached
    simp only [bind, Session.run, ih _ run, List.cons_append]

theorem run_bind_error {answer : (q : Q) → σ → A q × σ} {p : Session Q A ε α} {s s' : σ}
    {asked : List Q} {e : ε} (failed : p.run answer s = (asked, .error e, s'))
    (f : α → Session Q A ε β) : (p >>= f).run answer s = (asked, .error e, s') := by
  change (p.bind f).run answer s = _
  induction p generalizing s asked with
  | done x =>
    cases failed
    rfl
  | ask q next ih =>
    obtain ⟨others, x, last, run⟩ : ∃ others x last,
        (next (answer q s).1).run answer (answer q s).2 = (others, x, last) := ⟨_, _, _, rfl⟩
    simp only [Session.run, run] at failed
    cases failed
    simp only [bind, Session.run, ih _ run]

end Laws

/-- With these answers the program asks just these questions and ends so. -/
def Ends : Session Q (fun _ => R) ε α → List (Q × R) → Outcome ε α → Prop
  | .done x, [], y => x = y
  | .done _, _ :: _, _ => False
  | .ask _ _, [], _ => False
  | .ask q next, (r, a) :: t, y => q = r ∧ (next a).Ends t y

theorem ends_done {x y : Outcome ε α} {t : List (Q × R)} :
    (Session.done x : Session Q (fun _ => R) ε α).Ends t y ↔ t = [] ∧ x = y := by
  cases t with
  | nil => exact ⟨fun same => ⟨rfl, same⟩, fun ends => ends.2⟩
  | cons entry t => exact ⟨False.elim, fun ends => nomatch ends.1⟩

theorem ends_ask {q : Q} {next : R → Session Q (fun _ => R) ε α} {t : List (Q × R)}
    {y : Outcome ε α} :
    (Session.ask q next).Ends t y ↔ ∃ a rest, t = (q, a) :: rest ∧ (next a).Ends rest y := by
  cases t with
  | nil =>
    constructor
    · exact False.elim
    · rintro ⟨a, rest, same, -⟩
      cases same
  | cons entry t =>
    obtain ⟨r, a⟩ := entry
    constructor
    · rintro ⟨rfl, ends⟩
      exact ⟨a, t, rfl, ends⟩
    · rintro ⟨a', rest, same, ends⟩
      cases same
      exact ⟨rfl, ends⟩

/-- How a sequence ends: as its first part does, unless that ends with a value; with a value, the
second part goes on from there. -/
theorem ends_bind {p : Session Q (fun _ => R) ε α} {f : α → Session Q (fun _ => R) ε β}
    {t : List (Q × R)} {y : Outcome ε β} :
    (p >>= f).Ends t y ↔
      ∃ before after x, t = before ++ after ∧ p.Ends before x ∧
        match x with
        | .ok a => (f a).Ends after y
        | .error e => after = [] ∧ y = .error e
        | .aborted r => after = [] ∧ y = .aborted r := by
  change (p.bind f).Ends t y ↔ _
  induction p generalizing t with
  | done x =>
    simp only [ends_done]
    constructor
    · intro ends
      refine ⟨[], t, x, rfl, ⟨rfl, rfl⟩, ?_⟩
      cases x with
      | ok a => exact ends
      | error e => exact ⟨(ends_done.1 ends).1, (ends_done.1 ends).2.symm⟩
      | aborted r => exact ⟨(ends_done.1 ends).1, (ends_done.1 ends).2.symm⟩
    · rintro ⟨before, after, z, rfl, ⟨rfl, rfl⟩, ends⟩
      rw [List.nil_append]
      cases x with
      | ok a => exact ends
      | error e => exact ends_done.2 ⟨ends.1, ends.2.symm⟩
      | aborted r => exact ends_done.2 ⟨ends.1, ends.2.symm⟩
  | ask q next ih =>
    simp only [bind, ends_ask, ih]
    constructor
    · rintro ⟨a, rest, rfl, before, after, x, rfl, first, second⟩
      exact ⟨(q, a) :: before, after, x, rfl, ⟨a, before, rfl, first⟩, second⟩
    · rintro ⟨before, after, x, rfl, ⟨a, rest, rfl, first⟩, second⟩
      exact ⟨a, rest ++ after, rfl, rest, after, x, rfl, first, second⟩

end NameRights.Session
