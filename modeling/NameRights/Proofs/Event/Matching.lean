/- NameRights/Proofs/Event/Matching
   digest: Which logs a filter asks a node for, read off the JSON form of the filter. -/

import Mathlib.Data.List.Induction
import NameRights.Event.Filter
import NameRights.Proofs.Node.Form

set_option autoImplicit false
set_option relaxedAutoImplicit false

namespace NameRights

namespace Json

/-- Whether a place of a filter admits a value: `null` and the empty list admit all, other lists
their items, anything else the value it is the form of. -/
def Admits {α : Type} (read : Json → Option α) : Json → α → Prop
  | .null, _ => True
  | .list items, a => items = [] ∨ ∃ item ∈ items, read item = some a
  | place, a => read place = some a

end Json

namespace LogFilter

section Fields

variable (f : LogFilter)

end Fields

variable {places : List (Option (List Hash))} {place : Option (List Hash)} {hs topics : List Hash}
  {topic : Hash}

end LogFilter

end NameRights
