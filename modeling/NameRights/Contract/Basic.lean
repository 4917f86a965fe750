/- NameRights/Contract/Basic
   digest: The two contracts, what they declare, and the resolution of calls to their functions. -/

import NameRights.Contract.PrivilegeInterface
import NameRights.Contract.RegistryInterface
import NameRights.Contract.Selectors
import NameRights.Error
import NameRights.Event.Kind
import NameRights.Session

set_option autoImplicit false
set_option relaxedAutoImplicit false

namespace NameRights

/-- The contracts a client talks to. -/
inductive Contract where
  | registry
  | privilege
  deriving DecidableEq, Repr, Inhabited

namespace Contract

def name : Contract → String
  | registry => "DcnRegistry"
  | privilege => "MultiPrivilege"

def interface : Contract → Abi.Interface
  | registry => registryInterface
  | privilege => privilegeInterface

def selectors : Contract → List SelectorEntry
  | registry => registrySelectors
  | privilege => privilegeSelectors

/-- The first of several functions whose inputs the values pass for. -/
def firstFitting (values : List Abi.Value) : List Abi.Function → Except Abort (Option Abi.Function)
  | [] => .ok none
  | f :: fs => do
    if ← Abi.Value.listFits values f.kinds then .ok (some f) else firstFitting values fs

/-- The function of a name that accepts the values. -/
def function (c : Contract) (name : String) (values : List Abi.Value) :
    Outcome ContractError Abi.Function :=
  match c.interface.overloads name with
  | [] => .error (.abi (.invalidName name))
  | overloads =>
    match firstFitting values overloads with
    | .error reason => .aborted reason
    | .ok none => .error (.unknownFunction name)
    | .ok (some f) => .ok f

/-- The function of a name that accepts the values, and the data that calls it with them. -/
def encode (c : Contract) (name : String) (values : List Abi.Value) :
    Outcome ContractError (Abi.Function × Bytes) := do
  let f ← c.function name values
  return (f, f.encodeCall values)

def event (c : Contract) (name : String) : Except ContractError Abi.Event :=
  (c.interface.event? name).mapError .abi

end Contract

/-- Reads a log as a record of an event, if the contract declares the event. -/
def Contract.parseLog (c : Contract) (kind : EventKind) (log : Log) :
    Except ContractError kind.Record := do
  let event ← c.event kind.name
  kind.decode event log

end NameRights
