/- NameRights/Proofs/Event/Selection
   digest: A client asks for exactly those logs of an event whose indexed values are chosen. -/

import NameRights.Client
import NameRights.Proofs.Event.Matching
import NameRights.Proofs.Event.Records

set_option autoImplicit false
set_option relaxedAutoImplicit false

namespace NameRights

open Abi

namespace EventKind

namespace Slot

/-- The type that the items of a slot are coded at. -/
def kind : Slot → Kind
  | address => .address
  | word => .uint 256
  | hash => .fixedBytes 32

def datum : (slot : Slot) → slot.Item → Datum
  | address, a => .address a
  | word, w => .word w
  | hash, h => .hash h

private theorem kind_datum (slot : Slot) (item : slot.Item) :
    (slot.datum item).kind = slot.kind := by
  cases slot <;> rfl

private theorem value_datum (slot : Slot) (item : slot.Item) :
    (slot.datum item).value = slot.value item := by
  cases slot <;> rfl

private theorem isTopical_datum (slot : Slot) (item : slot.Item) :
    (slot.datum item).kind.isTopical = true := by
  cases slot <;> rfl

private theorem topicOf_value (slot : Slot) (item : slot.Item) :
    topicOf slot.kind (slot.value item) = .ok (slot.datum item).topic := by
  have fits := Value.fits_of_belongs _ _ (slot.datum item).belongs_value
  have size := (Datum.inWord_encode (slot.isTopical_datum item)).1
  rw [kind_datum, value_datum] at fits
  rw [value_datum] at size
  simp only [topicOf, fits, size, if_true, Datum.topic, value_datum]

private theorem topicsOf_values (slot : Slot) (items : List slot.Item) :
    topicsOf slot.kind (items.map slot.value) =
      .ok (items.map fun item => (slot.datum item).topic) := by
  induction items with
  | nil => rfl
  | cons item items ih =>
    simp only [List.map_cons, topicsOf, topicOf_value, ih, bind, Outcome.bind, pure]

private theorem acceptedTopics_values (slot : Slot) (wanted : List slot.Item) :
    acceptedTopics (some slot.kind) (.ofList (wanted.map slot.value)) =
      .ok (.ofList (wanted.map fun item => (slot.datum item).topic)) := by
  match wanted with
  | [] => rfl
  | [item] =>
    simp only [List.map_cons, List.map_nil, Accepted.ofList, acceptedTopics, topicOf_value, bind,
      Outcome.bind, pure]
  | item :: other :: items =>
    have topics := slot.topicsOf_values (item :: other :: items)
    simp only [List.map_cons] at topics
    simp only [List.map_cons, Accepted.ofList, acceptedTopics, topics, bind, Outcome.bind, pure]

end Slot

def slotTopics : (slots : List Slot) → Choices slots → List (Accepted Hash)
  | [], _ => []
  | slot :: slots, (wanted, choices) =>
    .ofList (wanted.map fun item => (slot.datum item).topic) :: slotTopics slots choices

private theorem acceptedTopics_slot (slots : List Slot) (choices : Choices slots) (i : Nat) :
    acceptedTopics (slots.map Slot.kind)[i]? ((accepted slots choices)[i]?.getD .any) =
      .ok ((slotTopics slots choices)[i]?.getD .any) := by
  induction slots generalizing i with
  | nil => rfl
  | cons slot slots ih =>
    cases i with
    | zero => exact slot.acceptedTopics_values choices.1
    | succ i => exact ih choices.2 i

private theorem kinds_slots (kind : EventKind) :
    kind.slots.map Slot.kind = kind.declaration.indexed.map Field.kind := by
  cases kind <;> rfl

private theorem acceptedTopics_declaration (kind : EventKind) (choices : Choices kind.slots) :
    kind.declaration.acceptedTopics (kind.indexedFilter choices) =
      let topics := slotTopics kind.slots choices
      .ok [.this kind.topic, topics[0]?.getD .any, topics[1]?.getD .any, topics[2]?.getD .any] := by
  have slot := acceptedTopics_slot kind.slots choices
  rw [kinds_slots] at slot
  simp only [Event.acceptedTopics, indexedFilter, slot, bind, Outcome.bind, pure,
    topic_declaration]
  rfl

def filter (kind : EventKind) (address : Address) (choices : Choices kind.slots)
    (fromBlock toBlock : Option Count) : LogFilter :=
  let topics := slotTopics kind.slots choices
  ⟨[address], some (LogFilter.places [.this kind.topic, topics[0]?.getD .any,
    topics[1]?.getD .any, topics[2]?.getD .any]), fromBlock, toBlock⟩

end EventKind

namespace Client

open EventKind

theorem eventFilter_declared {c : Contract} {kind : EventKind} {e : Abi.Event}
    (declared : c.event kind.name = .ok e) (address : Address) (choices : Choices kind.slots)
    (fromBlock toBlock : Option Count) : eventFilter address c kind choices fromBlock toBlock =
      .ok (e, kind.filter address choices fromBlock toBlock) := by
  obtain rfl := Contract.eq_declaration declared
  simp only [eventFilter, declared, LogFilter.ofEvent, acceptedTopics_declaration, filter,
    Outcome.ofExcept, bind, Outcome.bind, pure]

end Client

end NameRights
