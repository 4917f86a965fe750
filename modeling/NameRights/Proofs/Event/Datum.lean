/- NameRights/Proofs/Event/Datum
   digest: Values of a record as words and in data, and the reader that finds exactly those. -/

import Mathlib.Data.List.Forall2
import NameRights.Event.Kind
import NameRights.Proofs.Abi.RoundTrip
import NameRights.Proofs.Word

set_option autoImplicit false
set_option relaxedAutoImplicit false

namespace NameRights

open Abi Bytes Result

namespace Abi.Kind

def isPlain : Kind → Bool
  | address | bool | string => true
  | uint size => size = 256
  | fixedBytes size => size = 32
  | _ => false

/-- The types of those that fill a topic, whatever its bytes are. -/
def isTopical : Kind → Bool
  | address => true
  | uint size => size = 256
  | fixedBytes size => size = 32
  | _ => false

end Abi.Kind

namespace Datum

def kind : Datum → Kind
  | address _ => .address
  | word _ => .uint 256
  | hash _ => .fixedBytes 32
  | bool _ => .bool
  | text _ => .string

def value : Datum → Value
  | address a => .address a
  | word w => .uint w
  | hash h => .fixedBytes h.bytes
  | bool b => .bool b
  | text s => .string s

/-- Counts in the coding of the value fit in 32 bits. -/
def Short : Datum → Prop
  | text s => (Text.utf8 s).length < 2 ^ 32
  | _ => True

/-- The value that 32 bytes hold. In front of an address twelve bytes are not looked at; a truth
value stands behind 31 zeros, and any last byte but one is false. -/
def InWord (w : Bytes) : Datum → Prop
  | address a => w.drop 12 = a.bytes
  | word x => w = x.bytes
  | hash h => w = h.bytes
  | bool b => w.take 31 = zeros 31 ∧ (b = true ↔ w.drop 31 = [1])
  | text _ => False

/-- The value is the one at a place of `data`: it is in the word there, or it is a text whose bytes,
behind their number, stand where the word there points. -/
def StandsAt (data : Bytes) (offset : Nat) : Datum → Prop
  | text s => ∃ b : Bytes, Text.lossy b = s ∧ b.length < 2 ^ 32 ∧
      ∃ start < 2 ^ 32, Stands (Abi.word start) data offset ∧
        Stands (Abi.word b.length ++ b) data start
  | d => ∃ w, w.length = 32 ∧ Stands w data offset ∧ d.InWord w

/-- The topic that holds the value: the word it is coded as. -/
def topic (d : Datum) : Hash := .ofBytes (encode [d.value])

theorem belongs_value (d : Datum) : d.value.Belongs d.kind := by
  cases d with
  | hash h => exact h.length_bytes
  | _ => trivial

private theorem exists_of_belongs {v : Value} {kind : Kind} (plain : kind.isPlain = true)
    (belongs : v.Belongs kind) : ∃ d : Datum, d.kind = kind ∧ d.value = v := by
  cases kind with
  | address =>
    cases v with
    | address a => exact ⟨.address a, rfl, rfl⟩
    | _ => cases belongs
  | uint size =>
    obtain rfl : size = 256 := of_decide_eq_true plain
    cases v with
    | uint w => exact ⟨.word w, rfl, rfl⟩
    | _ => cases belongs
  | bool =>
    cases v with
    | bool b => exact ⟨.bool b, rfl, rfl⟩
    | _ => cases belongs
  | string =>
    cases v with
    | string s => exact ⟨.text s, rfl, rfl⟩
    | _ => cases belongs
  | fixedBytes size =>
    obtain rfl : size = 32 := of_decide_eq_true plain
    cases v with
    | fixedBytes b => exact ⟨.hash (.ofBytes b), rfl, congrArg Value.fixedBytes
      (Hash.bytes_ofBytes belongs)⟩
    | _ => cases belongs
  | _ => cases plain

private theorem valueAt_eq_ok {d : Datum} {data : Bytes} {offset next : Nat} :
    valueAt d.kind data offset = .ok (d.value, next) ↔
      d.StandsAt data offset ∧ next = offset + 32 := by
  cases d with
  | address a =>
    simp only [kind, valueAt, bind_eq_ok, wordAt_eq_ok, Except.ok.injEq, Prod.mk.injEq, value,
      Value.address.injEq, StandsAt, InWord]
    constructor
    · rintro ⟨w, ⟨size, stands⟩, same, rfl⟩
      exact ⟨⟨w, size, stands, (Address.ofBytes_eq_iff size).1 same⟩, rfl⟩
    · rintro ⟨⟨w, size, stands, same⟩, rfl⟩
      exact ⟨w, ⟨size, stands⟩, (Address.ofBytes_eq_iff size).2 same, rfl⟩
  | word x =>
    simp only [kind, valueAt, bind_eq_ok, wordAt_eq_ok, Except.ok.injEq, Prod.mk.injEq, value,
      Value.uint.injEq, StandsAt, InWord]
    constructor
    · rintro ⟨w, ⟨size, stands⟩, rfl, rfl⟩
      exact ⟨⟨w, size, stands, (Word.bytes_ofBytes size).symm⟩, rfl⟩
    · rintro ⟨⟨w, size, stands, same⟩, rfl⟩
      exact ⟨w, ⟨size, stands⟩, by rw [same, Word.ofBytes_bytes], rfl⟩
  | hash h =>
    simp only [kind, valueAt, bind_eq_ok, bytesAt_eq_ok, Except.ok.injEq, Prod.mk.injEq, value,
      Value.fixedBytes.injEq, StandsAt, InWord]
    constructor
    · rintro ⟨w, ⟨size, stands⟩, same, rfl⟩
      exact ⟨⟨w, size, stands, same⟩, rfl⟩
    · rintro ⟨⟨w, size, stands, same⟩, rfl⟩
      exact ⟨w, ⟨size, stands⟩, same, rfl⟩
  | bool b =>
    simp only [kind, valueAt, bind_eq_ok, boolAt_eq_ok, Except.ok.injEq, Prod.mk.injEq, value,
      Value.bool.injEq, StandsAt, InWord]
    constructor
    · rintro ⟨t, found, rfl, rfl⟩
      exact ⟨found, rfl⟩
    · rintro ⟨found, rfl⟩
      exact ⟨b, found, rfl, rfl⟩
  | text s =>
    simp only [kind, valueAt, bind_eq_ok, countedAt_eq_ok, Except.ok.injEq, Prod.mk.injEq, value,
      Value.string.injEq, StandsAt]
    constructor
    · rintro ⟨b, ⟨short, found⟩, rfl, rfl⟩
      exact ⟨⟨b, rfl, short, found⟩, rfl⟩
    · rintro ⟨⟨b, rfl, short, found⟩, rfl⟩
      exact ⟨b, ⟨short, found⟩, rfl, rfl⟩

/-- Values stand in `data` one after the other from a place on, texts as the words that point to
them. -/
def AllStand (data : Bytes) : Nat → List Datum → Prop
  | _, [] => True
  | offset, d :: ds => d.StandsAt data offset ∧ AllStand data (offset + 32) ds

private theorem valuesAt_eq_ok {ds : List Datum} {data : Bytes} {offset next : Nat} :
    valuesAt (ds.map kind) data offset = .ok (ds.map value, next) ↔
      AllStand data offset ds ∧ next = offset + 32 * ds.length := by
  induction ds generalizing offset with
  | nil =>
    simp only [List.map_nil, valuesAt, Except.ok.injEq, Prod.mk.injEq, AllStand, true_and,
      List.length_nil, Nat.mul_zero, Nat.add_zero]
    exact eq_comm
  | cons d ds ih =>
    constructor
    · intro read
      obtain ⟨⟨v, middle⟩, first, read⟩ := bind_eq_ok.1 read
      obtain ⟨⟨vs, last⟩, others, read⟩ := bind_eq_ok.1 read
      obtain ⟨same, rfl⟩ := Prod.mk.inj (Except.ok.inj read)
      obtain ⟨rfl, rfl⟩ := List.cons.inj same
      obtain ⟨stands, rfl⟩ := valueAt_eq_ok.1 first
      obtain ⟨allStand, rfl⟩ := ih.1 others
      refine ⟨⟨stands, allStand⟩, ?_⟩
      rw [List.length_cons]
      omega
    · rintro ⟨⟨stands, allStand⟩, last⟩
      rw [List.length_cons] at last
      have first := valueAt_eq_ok.2 ⟨stands, rfl⟩
      have others : valuesAt (ds.map kind) data (offset + 32) = .ok (ds.map value, next) :=
        ih.2 ⟨allStand, by omega⟩
      simp only [List.map_cons, valuesAt, first, others, ok_bind]

private theorem StandsAt.le {d : Datum} {data : Bytes} {offset : Nat}
    (stands : d.StandsAt data offset) :
    offset + 32 ≤ data.length := by
  cases d with
  | text s =>
    obtain ⟨b, -, -, start, -, offsetStands, -⟩ := stands
    have inside := offsetStands.le
    rwa [length_word] at inside
  | address a | word a | hash a | bool a =>
    obtain ⟨w, size, stands, -⟩ := stands
    have inside := stands.le
    rwa [size] at inside

theorem decode_eq_ok {ds : List Datum} {data : Bytes} :
    decode (ds.map kind) data = .ok (ds.map value) ↔ AllStand data 0 ds := by
  constructor
  · intro decoded
    unfold decode at decoded
    split at decoded
    · cases decoded
    · obtain ⟨⟨vs, next⟩, read, rfl⟩ := map_eq_ok.1 decoded
      exact (valuesAt_eq_ok.1 read).1
  · intro allStand
    have expected : (data.isEmpty && !(ds.map kind).all Kind.isEmpty) = false := by
      cases ds with
      | nil => exact Bool.and_false _
      | cons d ds =>
        have inside := allStand.1.le
        have some : data ≠ [] := by
          rintro rfl
          exact absurd inside (by decide)
        rw [List.isEmpty_eq_false_iff.2 some, Bool.false_and]
    rw [decode, if_neg (by rw [expected]; exact Bool.false_ne_true),
      valuesAt_eq_ok.2 ⟨allStand, rfl⟩, Except.map]

/-- What is decoded at types that records have are values that records have. -/
theorem exists_of_decode {kinds : List Kind} {data : Bytes} {vs : List Value}
    (plain : ∀ kind ∈ kinds, kind.isPlain = true) (decoded : decode kinds data = .ok vs) :
    ∃ ds : List Datum, ds.map kind = kinds ∧ ds.map value = vs := by
  have belong := listBelongs_of_decode decoded
  clear decoded
  induction kinds generalizing vs with
  | nil =>
    cases vs with
    | nil => exact ⟨[], rfl, rfl⟩
    | cons v vs => cases belong
  | cons kind kinds ih =>
    cases vs with
    | nil => cases belong
    | cons v vs =>
      obtain ⟨d, rfl, rfl⟩ := exists_of_belongs (plain kind (List.mem_cons_self ..)) belong.1
      obtain ⟨ds, rfl, rfl⟩ :=
        ih (fun kind found => plain kind (List.mem_cons_of_mem _ found)) belong.2
      exact ⟨d :: ds, rfl, rfl⟩

def InTopics (topics : List Hash) (ds : List Datum) : Prop :=
  List.Forall₂ (fun topic d => InWord topic.bytes d) topics ds

theorem exists_inTopics {kinds : List Kind} {topics : List Hash}
    (topical : ∀ kind ∈ kinds, kind.isTopical = true) (same : topics.length = kinds.length) :
    ∃ ds : List Datum, ds.map kind = kinds ∧ InTopics topics ds := by
  induction kinds generalizing topics with
  | nil =>
    obtain rfl := List.length_eq_zero_iff.1 same
    exact ⟨[], rfl, .nil⟩
  | cons kind kinds ih =>
    cases topics with
    | nil => cases same
    | cons topic topics =>
      obtain ⟨ds, rfl, inTopics⟩ := ih (fun kind found =>
        topical kind (List.mem_cons_of_mem _ found)) (Nat.succ.inj same)
      have first := topical kind (List.mem_cons_self ..)
      cases kind with
      | address =>
        have low : (topic.bytes.drop 12).length = 20 := by
          rw [List.length_drop, Hash.length_bytes]
        exact ⟨.address (.ofBytes (topic.bytes.drop 12)) :: ds, rfl,
          .cons (Address.bytes_ofBytes low).symm inTopics⟩
      | uint size =>
        obtain rfl : size = 256 := of_decide_eq_true first
        exact ⟨.word topic.value :: ds, rfl, .cons rfl inTopics⟩
      | fixedBytes size =>
        obtain rfl : size = 32 := of_decide_eq_true first
        exact ⟨.hash topic :: ds, rfl, .cons rfl inTopics⟩
      | _ => cases first

private theorem standsAt_topic {d : Datum} (front rest : Bytes) (topic : Hash)
    (topical : d.kind.isTopical = true) :
    d.StandsAt (front ++ (topic.bytes ++ rest)) front.length ↔ d.InWord topic.bytes := by
  have here : Stands topic.bytes (front ++ (topic.bytes ++ rest)) front.length := by
    refine ⟨?_, ?_⟩
    · rw [List.length_append]
      exact Nat.le_add_right _ _
    · rw [List.drop_left]
      exact List.prefix_append _ _
  have only {w : Bytes} (size : w.length = 32)
      (stands : Stands w (front ++ (topic.bytes ++ rest)) front.length) : w = topic.bytes := by
    have same : w.length = topic.bytes.length := by rw [size, Hash.length_bytes]
    exact (List.prefix_of_prefix_length_le stands.2 here.2 (Nat.le_of_eq same)).eq_of_length same
  have word : d.StandsAt (front ++ (topic.bytes ++ rest)) front.length ↔ ∃ w, w.length = 32 ∧
      Stands w (front ++ (topic.bytes ++ rest)) front.length ∧ d.InWord w := by
    cases d with
    | text s => cases topical
    | _ => exact Iff.rfl
  rw [word]
  constructor
  · rintro ⟨w, size, stands, inWord⟩
    rwa [only size stands] at inWord
  · exact fun inWord => ⟨topic.bytes, topic.length_bytes, here, inWord⟩

/-- A value that fills a topic is coded as one word, which holds it. -/
theorem inWord_encode {d : Datum} (topical : d.kind.isTopical = true) :
    (encode [d.value]).length = 32 ∧ d.InWord (encode [d.value]) := by
  cases d with
  | address a =>
    have coded : encode [(address a).value] = zeros 12 ++ a.bytes := by
      simp [value, encode, parts, part, joinParts, heads, tails]
    rw [coded]
    exact ⟨by simp [zeros], List.drop_left' (by simp [zeros])⟩
  | word w =>
    have coded : encode [(word w).value] = w.bytes := by
      simp [value, encode, parts, part, joinParts, heads, tails]
    rw [coded]
    exact ⟨w.length_bytes, rfl⟩
  | hash h =>
    have coded : encode [(hash h).value] = h.bytes := by
      simp [value, encode, parts, part, joinParts, heads, tails, padRight, zeros]
    rw [coded]
    exact ⟨h.length_bytes, rfl⟩
  | bool b => cases topical
  | text s => cases topical

theorem inWord_topic {d : Datum} (topical : d.kind.isTopical = true) : d.InWord d.topic.bytes := by
  obtain ⟨size, inWord⟩ := inWord_encode topical
  rwa [topic, Hash.bytes_ofBytes size]

theorem inTopics_topic {ds : List Datum} (topical : ∀ d ∈ ds, d.kind.isTopical = true) :
    InTopics (ds.map topic) ds := by
  induction ds with
  | nil => exact .nil
  | cons d ds ih =>
    exact .cons (inWord_topic (topical d (List.mem_cons_self ..)))
      (ih fun d found => topical d (List.mem_cons_of_mem _ found))

theorem allStand_encode {ds : List Datum} (compact : Value.ListCompact (ds.map value)) :
    AllStand (encode (ds.map value)) 0 ds := by
  have proper : Kind.allProper (ds.map kind) = true := by
    clear compact
    induction ds with
    | nil => rfl
    | cons d ds ih =>
      rw [List.map_cons, Kind.allProper, ih, Bool.and_true]
      cases d <;> rfl
  have belong : Value.ListBelongs (ds.map value) (ds.map kind) := by
    clear compact proper
    induction ds with
    | nil => trivial
    | cons d ds ih => exact ⟨d.belongs_value, ih⟩
  have decoded := decode_encode_append proper belong compact []
  rw [List.append_nil] at decoded
  exact decode_eq_ok.1 decoded

theorem allStand_topics {ds : List Datum} {topics : List Hash} (front : Bytes)
    (topical : ∀ d ∈ ds, d.kind.isTopical = true) (same : ds.length = topics.length) :
    AllStand (front ++ topics.flatMap Hash.bytes) front.length ds ↔ InTopics topics ds := by
  induction ds generalizing front topics with
  | nil =>
    obtain rfl := List.length_eq_zero_iff.1 same.symm
    exact iff_of_true trivial .nil
  | cons d ds ih =>
    cases topics with
    | nil => cases same
    | cons topic topics =>
      have others := ih (front ++ topic.bytes)
        (fun d found => topical d (List.mem_cons_of_mem _ found)) (Nat.succ.inj same)
      rw [List.length_append, Hash.length_bytes, List.append_assoc] at others
      have first := standsAt_topic front (topics.flatMap Hash.bytes) topic
        (topical d (List.mem_cons_self ..))
      rw [List.flatMap_cons, AllStand, first, others, InTopics, InTopics, List.forall₂_cons]

end Datum

end NameRights
