/- NameRights/Feed/Channel
   digest: Queues of limited length between one sender and one receiver. -/

set_option autoImplicit false
set_option relaxedAutoImplicit false

namespace NameRights

/-- A queue that holds at most `capacity` items. Either end may be let go of. -/
structure Channel (α : Type) where
  capacity : Nat
  items : List α
  hasSender : Bool
  hasReceiver : Bool
  deriving Repr, DecidableEq

/-- What becomes of an item that is offered without waiting. -/
inductive Offer where
  | accepted
  | full
  | closed
  deriving Repr, DecidableEq

namespace Channel

variable {α : Type}

def empty (capacity : Nat) : Channel α := ⟨capacity, [], true, true⟩

def hasRoom (c : Channel α) : Bool := decide (c.items.length < c.capacity)

def push (a : α) (c : Channel α) : Channel α := { c with items := c.items ++ [a] }

def pop? (c : Channel α) : Option (α × Channel α) :=
  match c.items with
  | [] => none
  | a :: rest => some (a, { c with items := rest })

/-- Offers an item, which is refused if an end is gone or there is no room. -/
def offer (a : α) (c : Channel α) : Offer × Channel α :=
  if !c.hasSender || !c.hasReceiver then (.closed, c)
  else if c.hasRoom then (.accepted, c.push a)
  else (.full, c)

def closeSender (c : Channel α) : Channel α := { c with hasSender := false }

/-- The receiver lets go, and the queued items are lost. -/
def dropReceiver (c : Channel α) : Channel α := { c with items := [], hasReceiver := false }

end Channel

end NameRights
