/- NameRights/Event/Filter
   digest: Filters of logs by address, block range and indexed values. -/

import NameRights.Abi.Interface
import NameRights.Error
import NameRights.Event.Kind
import NameRights.Node.Form

set_option autoImplicit false
set_option relaxedAutoImplicit false

namespace NameRights

/-- What a topic may be: anything, one value, or one of several. -/
inductive Accepted (α : Type) where
  | any
  | this (value : α)
  | oneOf (values : List α)
  deriving Repr

/-- The values accepted when a list of them is given: no values stand for anything. -/
def Accepted.ofList {α : Type} : List α → Accepted α
  | [] => .any
  | [a] => .this a
  | values => .oneOf values

def Accepted.hashes : Accepted Hash → Option (List Hash)
  | .any => none
  | .this h => some [h]
  | .oneOf hs => some hs

/-- What the first three indexed values of an event may be. -/
structure IndexedFilter where
  first : Accepted Abi.Value
  second : Accepted Abi.Value
  third : Accepted Abi.Value

/-- A filter of logs as a node takes it. A place of `topics` that is `none` or holds no hashes
is open. -/
structure LogFilter where
  addresses : List Address
  topics : Option (List (Option (List Hash)))
  fromBlock : Option Count
  toBlock : Option Count
  deriving Repr

namespace Abi

/-- The topic that stands for a value of a type: its coding if that is one word, else the hash of
it. -/
def topicOf (kind : Kind) (v : Value) : Outcome ContractError Hash :=
  match v.fits kind with
  | .error reason => .aborted reason
  | .ok false => .error (.abi .invalidData)
  | .ok true =>
    let coded := encode [v]
    .ok (.ofBytes (if coded.length = 32 then coded else Keccak.hash coded))

def topicsOf (kind : Kind) : List Value → Outcome ContractError (List Hash)
  | [] => .ok []
  | v :: vs => do
    let h ← topicOf kind v
    let hs ← topicsOf kind vs
    return h :: hs

/-- The topics accepted at the place of an indexed input. Values are refused where the event has
no such input. -/
def acceptedTopics (kind : Option Kind) : Accepted Value → Outcome ContractError (Accepted Hash)
  | .any => .ok .any
  | .this v =>
    match kind with
    | none => .error (.abi .invalidData)
    | some kind => do
      let h ← topicOf kind v
      return .this h
  | .oneOf vs =>
    match kind with
    | none => .error (.abi .invalidData)
    | some kind => do
      let hs ← topicsOf kind vs
      return .oneOf hs

/-- The topics accepted in the logs of an event. The event's own comes first unless it is
anonymous. -/
def Event.acceptedTopics (e : Event) (f : IndexedFilter) :
    Outcome ContractError (List (Accepted Hash)) := do
  let kinds := e.indexed.map Field.kind
  let first ← Abi.acceptedTopics kinds[0]? f.first
  let second ← Abi.acceptedTopics kinds[1]? f.second
  let third ← Abi.acceptedTopics kinds[2]? f.third
  return if e.isAnonymous then [first, second, third, .any] else [.this e.topic, first, second, third]

end Abi

namespace LogFilter

/-- The places of a list of accepted topics, without the open ones at its end. -/
def places (topics : List (Accepted Hash)) : List (Option (List Hash)) :=
  ((topics.map Accepted.hashes).reverse.dropWhile Option.isNone).reverse

def ofEvent (address : Address) (e : Abi.Event) (indexed : IndexedFilter)
    (fromBlock toBlock : Option Count) : Outcome ContractError LogFilter := do
  let topics ← e.acceptedTopics indexed
  return ⟨[address], some (places topics), fromBlock, toBlock⟩

def ofAddress (address : Address) : LogFilter := ⟨[address], none, none, none⟩

/-- The form of one hash or several: the hash, a list, or `null` for none. -/
def oneOrMany {α : Type} (encode : α → Json) : List α → Json
  | [] => .null
  | [a] => encode a
  | as => .list (as.map encode)

/-- The form a node takes a filter in. What is not restricted is left out. -/
def toJson (f : LogFilter) : Json :=
  let block (name : String) (n : Option Count) : List (String × Json) :=
    (n.map fun n => (name, Form.ofCount n)).toList
  .record (block "fromBlock" f.fromBlock ++ block "toBlock" f.toBlock ++
    [("address", oneOrMany Form.ofAddress f.addresses)] ++
    (f.topics.map fun places =>
      ("topics", .list (places.map (Json.ofOption (oneOrMany Form.ofHash))))).toList)

def admitsTopic (place : Option (List Hash)) (topic : Hash) : Bool :=
  match place with
  | none | some [] => true
  | some hs => hs.contains topic

/-- Whether topics may stand at the given places; a log needs as many topics as there are
places. -/
def admitsTopics : List (Option (List Hash)) → List Hash → Bool
  | [], _ => true
  | _ :: _, [] => false
  | place :: places, topic :: topics => admitsTopic place topic && admitsTopics places topics

/-- Whether a node counts a log among those a filter asks for, whatever its block. -/
def admits (f : LogFilter) (log : Log) : Bool :=
  (f.addresses.isEmpty || f.addresses.contains log.address) &&
    admitsTopics (f.topics.getD []) log.topics

end LogFilter

namespace EventKind

/-- The type of an indexed value that logs can be filtered by. -/
inductive Slot where
  | address
  | word
  | hash
  deriving DecidableEq, Repr

abbrev Slot.Item : Slot → Type
  | address => Address
  | word => Word
  | hash => Hash

def Slot.value : (slot : Slot) → slot.Item → Abi.Value
  | address, a => .address a
  | word, w => .uint w
  | hash, h => .fixedBytes h.bytes

def slots : EventKind → List Slot
  | transfer => [.address, .address, .word]
  | approval => [.address, .address, .word]
  | approvalForAll => [.address, .address]
  | roleAdminChanged => [.hash, .hash, .hash]
  | roleGranted => [.hash, .address, .address]
  | roleRevoked => [.hash, .address, .address]
  | baseUriChanged => []
  | nameRegistered => [.word, .address]
  | nameRenewed => [.word]
  | paused => []
  | unpaused => []
  | privilegeAssigned => [.word, .word, .address]
  | privilegeCloned => [.word, .word, .address]
  | privilegeTotalChanged => []
  | privilegeTransfer => [.word, .word]

/-- For every slot the values to look for; none stand for all. -/
abbrev Choices : List Slot → Type
  | [] => Unit
  | slot :: slots => List slot.Item × Choices slots

def accepted : (slots : List Slot) → Choices slots → List (Accepted Abi.Value)
  | [], _ => []
  | slot :: slots, (items, choices) => .ofList (items.map slot.value) :: accepted slots choices

def indexedFilter (kind : EventKind) (choices : Choices kind.slots) : IndexedFilter :=
  let places := accepted kind.slots choices
  ⟨places[0]?.getD .any, places[1]?.getD .any, places[2]?.getD .any⟩

end EventKind

end NameRights
