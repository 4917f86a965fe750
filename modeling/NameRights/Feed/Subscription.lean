/- NameRights/Feed/Subscription
   digest: A handle on a producer at work in the background. -/

import NameRights.Error

set_option autoImplicit false
set_option relaxedAutoImplicit false

namespace NameRights

/-- A handle on a producer: whether the producer has been told to quit, whether it is still
running, and the failure it has reported, until the failure is collected. -/
structure Subscription where
  isTold : Bool
  isRunning : Bool
  failure : Option ContractError
  deriving Repr

namespace Subscription

def started : Subscription := ⟨false, true, none⟩

/-- Collects the producer's verdict: its failure, or nothing once it has ended without one. There
is no verdict while the producer runs. A failure is collected once. -/
def verdict? (s : Subscription) : Option (Option ContractError × Subscription) :=
  match s.failure with
  | some e => some (some e, { s with failure := none })
  | none => if s.isRunning then none else some (none, s)

def tell (s : Subscription) : Subscription := { s with isTold := true }

/-- Joins a producer that has ended, and discards its failure. A running producer is waited for. -/
def join? (s : Subscription) : Option Subscription :=
  if s.isRunning then none else some { s with failure := none }

/-- The producer ends with a result; a producer that has ended before does nothing. -/
def exit (result : Except ContractError Unit) (s : Subscription) : Subscription :=
  if s.isRunning then
    { s with isRunning := false, failure := match result with | .ok () => none | .error e => some e }
  else s

end Subscription

end NameRights
