/- NameRights/Proofs/Event/Records
   digest: A contract reads a log as the record whose values the log holds, and refuses all
   others. -/

import NameRights.Proofs.Event.Declared
import NameRights.Proofs.Event.Parsing

set_option autoImplicit false
set_option relaxedAutoImplicit false

namespace NameRights

open Abi Result

namespace Datum

private theorem kind_eq_address {d : Datum} : d.kind = .address ↔ ∃ a, d = .address a := by
  cases d <;> simp [kind]

private theorem kind_eq_word {d : Datum} : d.kind = .uint 256 ↔ ∃ w, d = .word w := by
  cases d <;> simp [kind]

private theorem kind_eq_hash {d : Datum} : d.kind = .fixedBytes 32 ↔ ∃ h, d = .hash h := by
  cases d <;> simp [kind]

private theorem kind_eq_bool {d : Datum} : d.kind = .bool ↔ ∃ b, d = .bool b := by
  cases d <;> simp [kind]

private theorem kind_eq_text {d : Datum} : d.kind = .string ↔ ∃ s, d = .text s := by
  cases d <;> simp [kind]

end Datum

private theorem LogParams.pure_apply {α : Type} (a : α) (params : LogParams) :
    (pure a : Reader α) params = .ok (a, params) := rfl

namespace EventKind

private theorem regular (kind : EventKind) : kind.declaration.Regular := by
  cases kind <;> exact ⟨rfl, by decide, by decide, by decide⟩

/-- The values of a record. -/
def data (kind : EventKind) (r : kind.Record) : List Datum := (kind.values r).map Prod.snd

private theorem labels_eq (kind : EventKind) (r s : kind.Record) :
    (kind.values r).map Prod.fst = (kind.values s).map Prod.fst := by
  cases kind <;> rfl

private theorem kinds_data (kind : EventKind) (r : kind.Record) :
    (kind.data r).map Datum.kind = kind.declaration.kinds := by
  cases kind <;> rfl

private theorem exists_record (kind : EventKind) (log : Log) {ds : List Datum}
    (typed : ds.map Datum.kind = kind.declaration.kinds) :
    ∃ r : kind.Record, kind.raw r = log ∧ kind.data r = ds := by
  cases kind <;>
    simp only [Event.kinds, declaration, inputs, List.map_cons, List.map_nil,
      List.map_eq_cons_iff, List.map_eq_nil_iff, Datum.kind_eq_address, Datum.kind_eq_word,
      Datum.kind_eq_hash, Datum.kind_eq_bool, Datum.kind_eq_text] at typed
  case transfer | approval =>
    obtain ⟨_, _, rfl, ⟨a, rfl⟩, _, _, rfl, ⟨b, rfl⟩, _, _, rfl, ⟨w, rfl⟩, rfl⟩ := typed
    exact ⟨⟨a, b, w, log⟩, rfl, rfl⟩
  case approvalForAll =>
    obtain ⟨_, _, rfl, ⟨a, rfl⟩, _, _, rfl, ⟨b, rfl⟩, _, _, rfl, ⟨t, rfl⟩, rfl⟩ := typed
    exact ⟨⟨a, b, t, log⟩, rfl, rfl⟩
  case roleAdminChanged =>
    obtain ⟨_, _, rfl, ⟨h, rfl⟩, _, _, rfl, ⟨i, rfl⟩, _, _, rfl, ⟨j, rfl⟩, rfl⟩ := typed
    exact ⟨⟨h, i, j, log⟩, rfl, rfl⟩
  case roleGranted | roleRevoked =>
    obtain ⟨_, _, rfl, ⟨h, rfl⟩, _, _, rfl, ⟨a, rfl⟩, _, _, rfl, ⟨b, rfl⟩, rfl⟩ := typed
    exact ⟨⟨h, a, b, log⟩, rfl, rfl⟩
  case baseUriChanged =>
    obtain ⟨_, _, rfl, ⟨s, rfl⟩, rfl⟩ := typed
    exact ⟨⟨s, log⟩, rfl, rfl⟩
  case nameRegistered =>
    obtain ⟨_, _, rfl, ⟨v, rfl⟩, _, _, rfl, ⟨s, rfl⟩,
      _, _, rfl, ⟨a, rfl⟩, _, _, rfl, ⟨w, rfl⟩, rfl⟩ := typed
    exact ⟨⟨v, s, a, w, log⟩, rfl, rfl⟩
  case nameRenewed =>
    obtain ⟨_, _, rfl, ⟨v, rfl⟩, _, _, rfl, ⟨w, rfl⟩, rfl⟩ := typed
    exact ⟨⟨v, w, log⟩, rfl, rfl⟩
  case paused | unpaused =>
    obtain ⟨_, _, rfl, ⟨a, rfl⟩, rfl⟩ := typed
    exact ⟨⟨a, log⟩, rfl, rfl⟩
  case privilegeAssigned =>
    obtain ⟨_, _, rfl, ⟨v, rfl⟩, _, _, rfl, ⟨w, rfl⟩,
      _, _, rfl, ⟨a, rfl⟩, _, _, rfl, ⟨x, rfl⟩, rfl⟩ := typed
    exact ⟨⟨v, w, a, x, log⟩, rfl, rfl⟩
  case privilegeCloned | privilegeTransfer =>
    obtain ⟨_, _, rfl, ⟨v, rfl⟩, _, _, rfl, ⟨w, rfl⟩,
      _, _, rfl, ⟨a, rfl⟩, _, _, rfl, ⟨b, rfl⟩, rfl⟩ := typed
    exact ⟨⟨v, w, a, b, log⟩, rfl, rfl⟩
  case privilegeTotalChanged =>
    obtain ⟨_, _, rfl, ⟨v, rfl⟩, _, _, rfl, ⟨w, rfl⟩, rfl⟩ := typed
    exact ⟨⟨v, w, log⟩, rfl, rfl⟩

private theorem read_data (kind : EventKind) (r : kind.Record) :
    kind.read (kind.raw r) ⟨(kind.inputs.map Field.name).zip ((kind.data r).map Datum.value)⟩ =
      .ok (r, ⟨[]⟩) := by
  -- the names are looked up one after the other in what is left of the values
  cases kind <;>
    simp [-bind_pure_comp, read, raw, data, values, inputs, Datum.value, LogParams.get,
      LogParams.take, LogParams.swapRemove, LogParams.pure_apply, List.findIdx?, List.findIdx?.go,
      Shape.read, readWord, readAddress, bind, StateT.bind, Except.bind]

private theorem compact_data (kind : EventKind) (r : kind.Record)
    (short : ∀ d ∈ kind.data r, d.Short) :
    Value.ListCompact
      ((Field.pick false kind.declaration.inputs (kind.data r)).map Datum.value) := by
  cases kind <;>
    simp_all [declaration, data, values, inputs, Field.pick, Value.ListCompact, OffsetsFit, parts,
      part, headsLength, Part.headLength, Value.AllCompact, Value.Compact, Datum.value, Datum.Short]

def letters (label : String) : List Char := (label.toList.filter (· != '_')).map Char.toLower

/-- The record keeps the log and has the values that the log holds for the inputs of an event, each
under the name of its input. -/
structure Records (kind : EventKind) (r : kind.Record) (e : Abi.Event) (log : Log) : Prop where
  labels : (kind.values r).map (letters ·.1) = e.inputs.map (letters ·.name)
  holds : e.Holds log.topics log.data (kind.data r)
  raw : kind.raw r = log

private theorem letters_labels (kind : EventKind) (r : kind.Record) :
    (kind.values r).map (letters ·.1) = kind.inputs.map (letters ·.name) := by
  cases kind <;> simp only [values, inputs, List.map_cons, List.map_nil] <;> decide

private theorem fault_ne_name (kind : EventKind) {fault : Fault}
    (refused : fault = .invalidData ∨ fault = emptyData) :
    ∀ f ∈ kind.inputs, fault ≠ .invalidName f.name := by
  rcases refused with rfl | rfl
  · exact fun f _ => Fault.noConfusion
  · cases kind <;> decide

private theorem decode_eq_ok (kind : EventKind) {log : Log} {r : kind.Record} :
    kind.decode kind.declaration log = .ok r ↔ kind.Records r kind.declaration log := by
  constructor
  · intro read
    obtain ⟨items, parsed, read⟩ := bind_eq_ok.1 read
    obtain ⟨ds, holds, rfl⟩ := (Event.parse_eq_ok kind.regular).1 (mapError_eq_ok.1 parsed)
    obtain ⟨s, rfl, rfl⟩ := kind.exists_record log holds.typed
    obtain ⟨⟨t, left⟩, found, read⟩ := bind_eq_ok.1 read
    have back := (kind.read_data s).symm.trans found
    obtain ⟨rfl, -⟩ := Prod.mk.inj (Except.ok.inj back)
    obtain rfl := Except.ok.inj read
    exact ⟨kind.letters_labels s, holds, rfl⟩
  · rintro ⟨-, holds, rfl⟩
    have parsed := (Event.parse_eq_ok kind.regular).2 ⟨_, holds, rfl⟩
    simp only [decode, parsed, mapError_ok, ok_bind]
    rw [declaration, kind.read_data r]
    rfl

/-- A log that is coded from a record with short texts is read as that record. -/
theorem decode_coded (kind : EventKind) {r : kind.Record} (short : ∀ d ∈ kind.data r, d.Short)
    (topics : (kind.raw r).topics =
      kind.topic :: (Field.pick true kind.declaration.inputs (kind.data r)).map Datum.topic)
    (data : (kind.raw r).data =
      Abi.encode ((Field.pick false kind.declaration.inputs (kind.data r)).map Datum.value)) :
    kind.decode kind.declaration (kind.raw r) = .ok r := by
  have holds := kind.regular.holds_topic (kind.kinds_data r) (kind.compact_data r short)
  rw [kind.topic_declaration, ← topics, ← data] at holds
  exact kind.decode_eq_ok.2 ⟨kind.letters_labels r, holds, rfl⟩

theorem short_registered {r : NameRegistered} (short : (Text.utf8 r.name).length < 2 ^ 32) :
    ∀ d ∈ EventKind.nameRegistered.data r, d.Short := by
  intro d found
  simp only [data, values, List.map_cons, List.map_nil, List.mem_cons, List.not_mem_nil,
    or_false] at found
  rcases found with rfl | rfl | rfl | rfl
  · exact trivial
  · exact short
  · exact trivial
  · exact trivial

private theorem fault_of_decode (kind : EventKind) {log : Log} {error : ContractError}
    (failed : kind.decode kind.declaration log = .error error) :
    ∃ fault, error = .abi fault ∧ (fault = .invalidData ∨ fault = emptyData) := by
  rcases bind_eq_error.1 failed with failed | ⟨items, parsed, failed⟩
  · obtain ⟨fault, refused, rfl⟩ := mapError_eq_error.1 failed
    exact ⟨fault, rfl, Event.fault_of_parse refused⟩
  · obtain ⟨ds, holds, rfl⟩ := (Event.parse_eq_ok kind.regular).1 (mapError_eq_ok.1 parsed)
    obtain ⟨s, rfl, rfl⟩ := kind.exists_record log holds.typed
    rw [declaration, kind.read_data s] at failed
    cases failed

end EventKind

/-- A contract reads a log as a record of an event it declares exactly if the log has the event's
topic, one more for every indexed input, and data of the other inputs' types; the values of the
record are those in these places. Any other log is refused by the reader of contract data, and a
log made of values is read as these. -/
theorem Contract.parseLog_exact {c : Contract} {kind : EventKind} {e : Abi.Event}
    (declared : c.event kind.name = .ok e) (log : Log) :
    e.topic = kind.topic ∧
    (∀ r, c.parseLog kind log = .ok r ↔ kind.Records r e log) ∧
    ((∃ r, c.parseLog kind log = .ok r) ↔
      log.topics.length = 1 + e.indexed.length ∧ log.topics.head? = some kind.topic ∧
        ∃ vs, Abi.decode (e.unindexed.map Field.kind) log.data = .ok vs) ∧
    (∀ error, c.parseLog kind log = .error error → ∃ fault, error = .abi fault ∧
      (fault = .invalidData ∨ fault = emptyData) ∧ ∀ f ∈ e.inputs, fault ≠ .invalidName f.name) ∧
    (∀ r, (∀ d ∈ kind.data r, d.Short) →
      log.topics = kind.topic :: (Field.pick true e.inputs (kind.data r)).map Datum.topic →
      log.data = Abi.encode ((Field.pick false e.inputs (kind.data r)).map Datum.value) →
      ∃ s, c.parseLog kind log = .ok s ∧ kind.values s = kind.values r) := by
  obtain rfl := eq_declaration declared
  have topic := kind.topic_declaration
  have parse_eq : c.parseLog kind log = kind.decode kind.declaration log := by
    rw [parseLog, declared, ok_bind]
  have exact (r : kind.Record) :
      c.parseLog kind log = .ok r ↔ kind.Records r kind.declaration log := by
    rw [parse_eq, kind.decode_eq_ok]
  -- whatever a log holds makes up a record, and that record is what is read
  have held {ds : List Datum} (holds : kind.declaration.Holds log.topics log.data ds) :
      ∃ r, c.parseLog kind log = .ok r ∧ kind.data r = ds := by
    obtain ⟨r, raw, rfl⟩ := kind.exists_record log holds.typed
    exact ⟨r, (exact r).2 ⟨kind.letters_labels r, holds, raw⟩, rfl⟩
  refine ⟨topic, exact, ?_, ?_, ?_⟩
  · rw [← topic, ← Event.exists_holds_iff kind.regular]
    constructor
    · rintro ⟨r, read⟩
      exact ⟨_, ((exact r).1 read).holds⟩
    · rintro ⟨ds, holds⟩
      obtain ⟨r, read, -⟩ := held holds
      exact ⟨r, read⟩
  · intro error failed
    rw [parse_eq] at failed
    obtain ⟨fault, rfl, refused⟩ := kind.fault_of_decode failed
    exact ⟨fault, rfl, refused, kind.fault_ne_name refused⟩
  · intro r short topics data
    have holds := kind.regular.holds_topic (kind.kinds_data r) (kind.compact_data r short)
    rw [topic, ← topics, ← data] at holds
    obtain ⟨s, read, same⟩ := held holds
    have values : kind.values r = kind.values s :=
      (List.zip_of_prod (kind.labels_eq r s) same.symm).trans (List.zip_of_prod rfl rfl).symm
    exact ⟨s, read, values.symm⟩

/-- The registration of a name, as the registry logs it. -/
def aliceRegistered : Log where
  address := .replicate 0x11
  topics := [EventKind.nameRegistered.topic, ⟨1⟩, ⟨0xaa⟩]
  data := Abi.word 64 ++ Abi.word 31536000 ++ Abi.counted [0x61, 0x6c, 0x69, 0x63, 0x65]
  blockHash := none
  blockNumber := none
  transactionHash := none
  transactionIndex := none
  logIndex := none
  transactionLogIndex := none
  logType := none
  removed := none

theorem Contract.parseLog_aliceRegistered :
    Contract.registry.event EventKind.nameRegistered.name =
      .ok EventKind.nameRegistered.declaration ∧
    ∃ r, Contract.registry.parseLog .nameRegistered aliceRegistered = .ok r ∧
      EventKind.nameRegistered.values r =
        [("id", .word 1), ("name", .text "alice"), ("owner", .address ⟨0xaa⟩),
         ("expires", .word 31536000)] := by
  have declared : Contract.registry.event EventKind.nameRegistered.name =
      .ok EventKind.nameRegistered.declaration := rfl
  obtain ⟨-, -, -, -, coded⟩ := parseLog_exact declared aliceRegistered
  obtain ⟨s, read, values⟩ := coded ⟨1, "alice", ⟨0xaa⟩, 31536000, aliceRegistered⟩
    (EventKind.short_registered (by decide)) (by decide +kernel) (by decide +kernel)
  exact ⟨declared, s, read, values⟩

end NameRights
