/- NameRights/Event/Parsed
   digest: The named values of a log, read at the types of an event. -/

import NameRights.Abi.Interface
import NameRights.Abi.Shape
import NameRights.Log

set_option autoImplicit false
set_option relaxedAutoImplicit false

namespace NameRights

namespace Abi.Event

/-- The type an indexed value has in its topic: values without a fixed length are hashed. -/
def topicKind : Kind → Kind
  | .string | .bytes | .array _ | .fixedArray _ _ | .tuple _ => .fixedBytes 32
  | kind => kind

/-- The topics of a log that hold values. The others of an event that is not anonymous start
with the event's own. -/
def valueTopics (e : Event) (topics : List Hash) : Except Fault (List Hash) :=
  if e.isAnonymous then .ok topics
  else match topics with
    | [] => .error .invalidData
    | topic :: rest => if topic = e.topic then .ok rest else .error .invalidData

/-- The named values of a log in the order of the event's inputs. Indexed ones come from the
topics, of which there must be as many, the others from the data. Of two inputs of one name
both get the value that is read last. -/
def parse (e : Event) (topics : List Hash) (data : Bytes) :
    Except Fault (List (String × Value)) := do
  let topics ← e.valueTopics topics
  let indexed ← decode (e.indexed.map fun f => topicKind f.kind) (topics.flatMap Hash.bytes)
  if indexed.length ≠ topics.length then .error .invalidData
  else
    let unindexed ← decode (e.unindexed.map Field.kind) data
    let named := (e.indexed.map Field.name).zip indexed ++
      (e.unindexed.map Field.name).zip unindexed
    .ok (e.inputs.filterMap fun f =>
      (named.reverse.find? (·.1 == f.name)).map fun (_, v) => (f.name, v))

end Abi.Event

/-- The named values of a log that were not taken yet. -/
structure LogParams where
  values : List (String × Abi.Value)
  deriving Repr

namespace LogParams

/-- The list without the item at a position, whose place the last item takes. -/
def swapRemove {α : Type} (items : List α) (position : Nat) : List α :=
  match items.getLast? with
  | none => []
  | some last => (items.set position last).dropLast

/-- Takes the first value of a name out and reads it. A value that cannot be read is gone as
well. -/
def take {α : Type} (read : Abi.Value → Except ChainError α) (name : String) (params : LogParams) :
    Except ContractError α × LogParams :=
  match params.values.findIdx? (·.1 == name) with
  | none => (.error (.abi (.invalidName name)), params)
  | some position =>
    match params.values[position]? with
    | none => (.error (.abi (.invalidName name)), params)
    | some (_, v) =>
      ((read v).mapError .chain, ⟨swapRemove params.values position⟩)

abbrev Reader := StateT LogParams (Except ContractError)

def get {α : Type} (shape : Abi.Shape α) (name : String) : Reader α := fun params =>
  match params.take shape.read name with
  | (.ok a, params) => .ok (a, params)
  | (.error e, _) => .error e

end LogParams

end NameRights
