/- NameRights/Contract/Call
   digest: Functions of a contract with their arguments, and how their outputs are read. -/

import NameRights.Contract.Basic

set_option autoImplicit false
set_option relaxedAutoImplicit false

namespace NameRights

/-- A function of a contract with its arguments. -/
structure Invocation where
  contract : Contract
  name : String
  arguments : List Abi.Value

/-- An invocation with the form its outputs are read in. -/
structure Call (α : Type) where
  invocation : Invocation
  output : Abi.Output α

namespace Invocation

/-- The function that accepts the arguments, and the data that calls it with them. -/
def encode (i : Invocation) : Outcome ContractError (Abi.Function × Bytes) :=
  i.contract.encode i.name i.arguments

end Invocation

def Call.read {α : Type} (c : Call α) (f : Abi.Function) (data : Bytes) :
    Except ContractError α := do
  let values ← (f.decodeOutput data).mapError .abi
  (c.output.read values).mapError .chain

end NameRights
