/- NameRights/Session
   digest: Programs that ask questions and go on with the answers. -/

set_option autoImplicit false
set_option relaxedAutoImplicit false

namespace NameRights

/-- Why a program is abandoned without a result. -/
inductive Abort where
  | tupleTooLong
  | unsupportedTransactionType
  | chainIdTooLarge
  | keyFileAddressLength
  | keyFileVectorLength
  deriving DecidableEq, Repr, Inhabited

/-- How a program ends: with a value, with an error it reports, or abandoned. -/
inductive Outcome (ε α : Type) where
  | ok (value : α)
  | error (error : ε)
  | aborted (reason : Abort)
  deriving Repr

namespace Outcome

def ofExcept {ε α : Type} : Except ε α → Outcome ε α
  | .ok a => .ok a
  | .error e => .error e

def bind {ε α β : Type} (x : Outcome ε α) (f : α → Outcome ε β) : Outcome ε β :=
  match x with
  | .ok a => f a
  | .error e => .error e
  | .aborted r => .aborted r

instance {ε : Type} : Monad (Outcome ε) where
  pure := .ok
  bind := bind

def mapError {ε δ α : Type} (f : ε → δ) : Outcome ε α → Outcome δ α
  | .ok a => .ok a
  | .error e => .error (f e)
  | .aborted r => .aborted r

end Outcome

/-- A program asking questions of type `Q`. A question `q` is answered by a value of type `A q`. -/
inductive Session (Q : Type) (A : Q → Type) (ε α : Type) where
  | done (result : Outcome ε α)
  | ask (question : Q) (next : A question → Session Q A ε α)

namespace Session

variable {Q : Type} {A : Q → Type} {ε α β : Type}

def bind : Session Q A ε α → (α → Session Q A ε β) → Session Q A ε β
  | .done (.ok a), f => f a
  | .done (.error e), _ => .done (.error e)
  | .done (.aborted r), _ => .done (.aborted r)
  | .ask q k, f => .ask q fun a => (k a).bind f

instance : Monad (Session Q A ε) where
  pure a := .done (.ok a)
  bind := bind

def fail (e : ε) : Session Q A ε α := .done (.error e)

def ofOutcome (x : Outcome ε α) : Session Q A ε α := .done x

def ofExcept (x : Except ε α) : Session Q A ε α := .done (.ofExcept x)

def query (q : Q) : Session Q A ε (A q) := .ask q fun a => .done (.ok a)

def mapError {δ : Type} (f : ε → δ) : Session Q A ε α → Session Q A δ α
  | .done x => .done (x.mapError f)
  | .ask q k => .ask q fun a => (k a).mapError f

def attempt {δ : Type} : Session Q A ε α → Session Q A δ (Except ε α)
  | .done (.ok a) => .done (.ok (.ok a))
  | .done (.error e) => .done (.ok (.error e))
  | .done (.aborted r) => .done (.aborted r)
  | .ask q k => .ask q fun a => (k a).attempt

/-- Answers every question of a program by a program of finer questions. -/
def refine {P : Type} {B : P → Type} (answer : (q : Q) → Session P B ε (A q)) :
    Session Q A ε α → Session P B ε α
  | .done x => .done x
  | .ask q k => (answer q).bind fun a => (k a).refine answer

/-- Runs a program with answers from a changing state. The questions are returned in order. -/
def run {σ : Type} (answer : (q : Q) → σ → A q × σ) : Session Q A ε α → σ → List Q × Outcome ε α × σ
  | .done x, s => ([], x, s)
  | .ask q k, s =>
    let (a, s) := answer q s
    let (asked, x, s) := (k a).run answer s
    (q :: asked, x, s)

end Session

end NameRights
