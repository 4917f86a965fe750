/- NameRights/Proofs/Node/TimelineCourse
   digest: What the moves of a line's poller and forwarder keep holds however far time goes on. -/

import Mathlib.Data.List.Forall2
import NameRights.Node.Timeline
import NameRights.Proofs.Session.Asking

set_option autoImplicit false
set_option relaxedAutoImplicit false

namespace NameRights

theorem settle_induction {σ : Type} {step? : σ → Option σ} {P : σ → Prop}
    (kept : ∀ s t, P s → step? s = some t → P t) {s : σ} (begun : P s) (fuel : Nat) :
    P (settle step? fuel s) := by
  induction fuel generalizing s with
  | zero => exact begun
  | succ fuel ih =>
    unfold settle
    cases made : step? s with
    | none => exact begun
    | some t => exact ih (kept s t begun made)

variable {kind : EventKind}

/-- Every move that a line makes without its consumer keeps this of its poller and its tap. -/
structure Line.IsKept (P : Poller → Tap kind → Prop) : Prop where
  step : ∀ {p q : Poller} {tap : Tap kind} {request : Option Request} {feed : Feed}, P p tap →
    p.step? tap.feed = some (request, q, feed) → P q (tap.withFeed feed)
  forward : ∀ {p : Poller} {tap tap' : Tap kind}, P p tap → tap.step? = some tap' → P p tap'
  wake : ∀ {p q : Poller} {tap : Tap kind} {request : Request}, P p tap →
    p.wake? = some (request, q) → P q tap
  hear : ∀ {p : Poller} {tap : Tap kind} (reply : Reply), P p tap →
    P (p.hear reply tap.feed).1 (tap.withFeed (p.hear reply tap.feed).2)

namespace Line.IsKept

variable {P : Poller → Tap kind → Prop} {clock : Clock} {line : Line kind}

private theorem lineStep (kept : IsKept P) (holds : P line.poller line.tap)
    {next : Clock × Line kind}
    (made : Line.step? (clock, line) = some next) : P next.2.poller next.2.tap := by
  unfold Line.step? at made
  simp only at made
  cases stepped : line.poller.step? line.tap.feed with
  | some entry =>
    obtain ⟨request, poller, feed⟩ := entry
    rw [stepped] at made
    cases request with
    | none =>
      cases made
      exact kept.step holds stepped
    | some request =>
      cases made
      exact kept.step holds stepped
  | none =>
    rw [stepped] at made
    obtain ⟨tap, forwarded, made⟩ := Option.map_eq_some_iff.1 made
    cases made
    exact kept.forward holds forwarded

private theorem settle (kept : IsKept P) (clock : Clock) (holds : P line.poller line.tap) :
    P (line.settle clock).2.poller (line.settle clock).2.tap :=
  settle_induction (P := fun entry : Clock × Line kind => P entry.2.poller entry.2.tap)
    (fun _ _ holds made => kept.lineStep holds made) holds _

private theorem stir (kept : IsKept P) (clock : Clock) (holds : P line.poller line.tap) :
    P (line.stir clock).2.poller (line.stir clock).2.tap := by
  unfold Line.stir
  cases line.alarm with
  | none => exact holds
  | some alarm =>
    obtain ⟨due, stimulus⟩ := alarm
    simp only
    split
    · exact holds
    · cases stimulus with
      | reply reply => exact kept.settle clock (kept.hear reply holds)
      | wake =>
        cases woken : line.poller.wake? with
        | none => exact holds
        | some entry =>
          obtain ⟨request, poller⟩ := entry
          exact kept.settle _ (kept.wake holds woken)

end Line.IsKept

namespace Timeline

variable {β : Type}

def Marked (P : β → Poller → Tap kind → Prop) (marks : List β) (lines : List (Line kind)) : Prop :=
  List.Forall₂ (fun b line => P b line.poller line.tap) marks lines

variable {P : β → Poller → Tap kind → Prop} {marks : List β} {lines : List (Line kind)}
  {t : Timeline kind}

private theorem Marked.each {f : Clock → Line kind → Clock × Line kind}
    (kept : ∀ b clock line, P b line.poller line.tap →
      P b (f clock line).2.poller (f clock line).2.tap)
    (marked : Marked P marks lines) (clock : Clock) : Marked P marks (each f clock lines).lines := by
  induction marked generalizing clock with
  | nil => exact .nil
  | cons holds _ ih => exact .cons (kept _ clock _ holds) (ih _)

theorem Marked.settle (kept : ∀ b, Line.IsKept (P b)) (marked : Marked P marks t.lines) :
    Marked P marks t.settle.lines :=
  marked.each (fun b clock _ holds => (kept b).settle clock holds) t.clock

theorem Marked.advance (kept : ∀ b, Line.IsKept (P b)) (marked : Marked P marks t.lines)
    {t' : Timeline kind} (made : t.advance? = some t') : Marked P marks t'.lines := by
  obtain ⟨due, -, rfl⟩ := Option.map_eq_some_iff.1 made
  exact marked.each (fun b clock _ holds => (kept b).stir clock holds) _

private theorem Marked.runUntil (kept : ∀ b, Line.IsKept (P b)) (marked : Marked P marks t.lines)
    (due fuel : Nat) : Marked P marks (t.runUntil due fuel).lines := by
  induction fuel generalizing t with
  | zero => exact marked
  | succ fuel ih =>
    unfold Timeline.runUntil
    split
    · cases made : t.advance? with
      | none => exact marked
      | some t' => exact ih (marked.advance kept made)
    · exact marked

private theorem Marked.cases (marked : Marked P marks lines) (i : Nat) :
    (marks[i]? = none ∧ lines[i]? = none) ∨
      ∃ b line, marks[i]? = some b ∧ lines[i]? = some line ∧ P b line.poller line.tap := by
  induction marked generalizing i with
  | nil => exact Or.inl ⟨rfl, rfl⟩
  | @cons b line _ _ holds _ ih =>
    cases i with
    | zero => exact Or.inr ⟨b, line, rfl, rfl, holds⟩
    | succ i => exact ih i

theorem Marked.exists_mark (marked : Marked P marks lines) {i : Nat} {line : Line kind}
    (here : lines[i]? = some line) : ∃ b, marks[i]? = some b ∧ P b line.poller line.tap := by
  rcases marked.cases i with ⟨-, none⟩ | ⟨b, line', mark, here', holds⟩
  · cases none.symm.trans here
  · cases here'.symm.trans here
    exact ⟨b, mark, holds⟩

theorem Marked.exists_line (marked : Marked P marks lines) {i : Nat} {b : β}
    (mark : marks[i]? = some b) : ∃ line, lines[i]? = some line ∧ P b line.poller line.tap := by
  rcases marked.cases i with ⟨none, -⟩ | ⟨b', line, mark', here, holds⟩
  · cases none.symm.trans mark
  · cases mark'.symm.trans mark
    exact ⟨line, here, holds⟩

/-- A consumer's move at one tap, with another mark for its line. -/
theorem Marked.set (marked : Marked P marks lines) {i : Nat} {line : Line kind} {b : β}
    {tap : Tap kind} (here : lines[i]? = some line) (holds : P b line.poller tap) :
    Marked P (marks.set i b) (lines.modify i fun line => { line with tap }) := by
  induction marked generalizing i with
  | nil => cases here
  | cons first rest ih =>
    cases i with
    | zero =>
      cases here
      exact .cons holds rest
    | succ i => exact .cons first (ih here)

variable {ε α : Type}

/-- While the node is asked something, the lines go on as they do alone. -/
theorem Marked.converse (kept : ∀ b, Line.IsKept (P b)) (marked : Marked P marks t.lines)
    (session : Session Request (fun _ => Reply) ε α) :
    Marked P marks (t.converse session).2.lines := by
  induction session generalizing t with
  | done x => exact marked
  | ask request next ih =>
    have sent : Marked P marks (⟨(t.clock.ask request).2, t.lines⟩ : Timeline kind).lines := marked
    unfold Timeline.converse
    simp only
    split
    · exact ih _ (sent.runUntil kept _ _)
    · exact ih _ sent

/-- A value that an exchange ends with is one that some answers lead to. -/
theorem yields_of_converse {session : Session Request (fun _ => Reply) ε α} {a : α}
    (ended : (t.converse session).1 = .ok a) : session.Yields a := by
  induction session generalizing t with
  | done x => exact (Session.yields_done x a).2 ended
  | ask request next ih =>
    unfold Timeline.converse at ended
    simp only at ended
    split at ended
    · exact ⟨_, ih _ ended⟩
    · exact ⟨_, ih _ ended⟩

end Timeline

end NameRights
