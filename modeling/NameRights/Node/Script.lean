/- NameRights/Node/Script
   digest: A node whose answers are prepared beforehand, in a queue for every method. -/

import NameRights.Node.Exchange

set_option autoImplicit false
set_option relaxedAutoImplicit false

namespace NameRights

/-- A prepared answer: the reply and how long it takes, in milliseconds. Without a reply the
answer never comes, and the operator interrupts the program instead. A standing answer is given
again and again. -/
structure Prepared where
  reply : Option Reply
  delay : Nat
  isStanding : Bool

/-- Queues of answers by name. A queue is named for a method, or for a method and the filter id
it is asked about; `otherwise` answers when a queue is empty or missing. -/
structure Script where
  queues : List (String × List Prepared)
  otherwise : String → Prepared

namespace Script

def nameFor (r : Request) : String :=
  match r.params with
  | .text id :: _ => r.method ++ ":" ++ id
  | _ => r.method

def queueName (script : Script) (r : Request) : String :=
  if script.queues.any (·.1 == nameFor r) then nameFor r else r.method

def answer (script : Script) (r : Request) : Prepared × Script :=
  let name := script.queueName r
  match script.queues.lookup name with
  | some (next :: rest) =>
    if next.isStanding then (next, script)
    else (next, { script with
      queues := script.queues.map fun (n, queue) => if n == name then (n, rest) else (n, queue) })
  | _ => (script.otherwise r.method, script)

/-- The reply to a request, which is an error if it never comes. -/
def reply (r : Request) (script : Script) : Reply × Script :=
  let (prepared, script) := script.answer r
  (prepared.reply.getD (.error .unreachable), script)

end Script

end NameRights
