/- NameRights/Proofs/Command/Exchanges
   digest: What an operator's program asks a node and what it is answered, without what it
   shows. -/

import NameRights.Command.Task
import NameRights.Proofs.Session.Transcript

set_option autoImplicit false
set_option relaxedAutoImplicit false

namespace NameRights

namespace Session

variable {Q R ε δ α β : Type} {A : Q → Type}

/-- A failure that is kept as a value and then fails has not been kept. -/
theorem attempt_bind (p : Session Q A ε α) (g : α → Except ε β) :
    (p.attempt >>= fun x => ofExcept (x >>= g) : Session Q A ε β) =
      p >>= fun a => ofExcept (g a) := by
  change p.attempt.bind _ = p.bind _
  induction p with
  | done x => cases x <;> rfl
  | ask q next ih => simp only [Session.bind, attempt, ih]

theorem ends_mapError {p : Session Q (fun _ => R) ε α} {f : ε → δ} {t : List (Q × R)}
    {y : Outcome δ α} : (p.mapError f).Ends t y ↔ ∃ x, p.Ends t x ∧ x.mapError f = y := by
  induction p generalizing t with
  | done x =>
    simp only [mapError, ends_done]
    constructor
    · rintro ⟨rfl, same⟩
      exact ⟨x, ⟨rfl, rfl⟩, same⟩
    · rintro ⟨x', ⟨rfl, rfl⟩, same⟩
      exact ⟨rfl, same⟩
  | ask q next ih =>
    simp only [mapError, ends_ask, ih]
    constructor
    · rintro ⟨a, rest, rfl, x, ends, same⟩
      exact ⟨x, ⟨a, rest, rfl, ends⟩, same⟩
    · rintro ⟨x, ⟨a, rest, rfl, ends⟩, same⟩
      exact ⟨a, rest, rfl, x, ends, same⟩

end Session

namespace Task

variable {α β σ : Type}

/-- How acts are answered where a node answers the requests. -/
def attend (node : Request → σ → Reply × σ) : (act : Act) → σ → act.Answer × σ
  | .print _, s => ((), s)
  | .warn _, s => ((), s)
  | .send r, s => node r s

/-- The requests of a task, each with the node's reply, in order. -/
def exchanges (node : Request → σ → Reply × σ) : Task α → σ → List (Request × Reply)
  | .done _, _ => []
  | .ask (.print _) next, s => exchanges node (next ()) s
  | .ask (.warn _) next, s => exchanges node (next ()) s
  | .ask (.send r) next, s =>
    let (reply, s) := node r s
    (r, reply) :: exchanges node (next reply) s

/-- How a task ends where a node answers its requests. -/
def outcome (node : Request → σ → Reply × σ) (task : Task α) (s : σ) : Outcome CommandFault α :=
  (task.run (attend node) s).2.1

def silent : Task α → Session Request (fun _ => Reply) CommandFault α
  | .done x => .done x
  | .ask (.print _) next => silent (next ())
  | .ask (.warn _) next => silent (next ())
  | .ask (.send r) next => .ask r fun reply => silent (next reply)

theorem ends_silent (node : Request → σ → Reply × σ) (task : Task α) (s : σ) :
    task.silent.Ends (task.exchanges node s) (task.outcome node s) := by
  induction task generalizing s with
  | done x => rfl
  | ask act next ih =>
    cases act with
    | print text => exact ih () s
    | warn text => exact ih () s
    | send r => exact ⟨rfl, ih (node r s).1 (node r s).2⟩

theorem perform_eq (task : Task Unit) (script : Script) :
    (task.perform script).requests = (task.exchanges Script.reply script).map Prod.fst ∧
      (task.perform script).result = task.outcome Script.reply script := by
  have attended : @answer = attend Script.reply := by
    funext act script
    cases act <;> rfl
  have listed (task : Task Unit) (script : Script) (result : Outcome CommandFault Unit) :
      (Performance.ofActs (task.run (attend Script.reply) script).1 result).requests =
        (task.exchanges Script.reply script).map Prod.fst := by
    induction task generalizing script with
    | done x => rfl
    | ask act next ih =>
      cases act with
      | print text => exact ih () script
      | warn text => exact ih () script
      | send r => exact congrArg (r :: ·) (ih (Script.reply r script).1 (Script.reply r script).2)
  unfold perform
  rw [attended]
  exact ⟨listed task script _, rfl⟩

theorem silent_bind (p : Task α) (f : α → Task β) :
    (p >>= f).silent = p.silent >>= fun a => (f a).silent := by
  change silent (Session.bind p f) = Session.bind p.silent _
  induction p with
  | done x => cases x <;> rfl
  | ask act next ih =>
    cases act with
    | print text => exact ih ()
    | warn text => exact ih ()
    | send r => simp only [Session.bind, silent, ih]

theorem silent_chain (fault : ContractError → CommandFault) (d : Dialogue α) :
    (chain fault d).silent = (Node.serve d).mapError fault := by
  unfold chain
  induction Node.serve d with
  | done x => rfl
  | ask r next ih =>
    change Session.ask r _ = Session.ask r _
    congr 1
    funext reply
    exact ih reply

end Task

end NameRights
