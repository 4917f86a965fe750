/- NameRights/Proofs/Event/Parsing
   digest: The values a log holds at the places of an event's inputs, and the parser that finds
   exactly those. -/

import NameRights.Proofs.Event.Datum

set_option autoImplicit false
set_option relaxedAutoImplicit false

namespace NameRights

open Result

namespace Abi

namespace Field

/-- The items in the places of the inputs that are indexed, or of the others. -/
def pick {α : Type} (indexed : Bool) : List Field → List α → List α
  | f :: fs, a :: as =>
    if f.isIndexed = indexed then a :: pick indexed fs as else pick indexed fs as
  | _, _ => []

variable {α β : Type} {fs : List Field}

private theorem pick_map (indexed : Bool) (fs : List Field) (g : α → β) (as : List α) :
    pick indexed fs (as.map g) = (pick indexed fs as).map g := by
  induction fs generalizing as with
  | nil => rfl
  | cons f fs ih =>
    cases as with
    | nil => rfl
    | cons a as =>
      rw [List.map_cons, pick, pick, ih]
      split
      · rfl
      · rfl

private theorem pick_true_self (fs : List Field) : pick true fs fs = fs.filter Field.isIndexed := by
  induction fs with
  | nil => rfl
  | cons f fs ih => rw [pick, List.filter_cons, ih]

private theorem pick_false_self (fs : List Field) :
    pick false fs fs = fs.filter fun f => !f.isIndexed := by
  induction fs with
  | nil => rfl
  | cons f fs ih =>
    rw [pick, List.filter_cons, ih]
    cases f.isIndexed with
    | false => rfl
    | true => rfl

private theorem exists_pick {first second : List Datum}
    (indexed : first.map Datum.kind = (fs.filter Field.isIndexed).map Field.kind)
    (unindexed : second.map Datum.kind = (fs.filter fun f => !f.isIndexed).map Field.kind) :
    ∃ ds : List Datum, ds.map Datum.kind = fs.map Field.kind ∧ pick true fs ds = first ∧
      pick false fs ds = second := by
  induction fs generalizing first second with
  | nil =>
    obtain rfl := List.map_eq_nil_iff.1 indexed
    obtain rfl := List.map_eq_nil_iff.1 unindexed
    exact ⟨[], rfl, rfl, rfl⟩
  | cons f fs ih =>
    cases place : f.isIndexed with
    | true =>
      rw [List.filter_cons, if_pos place] at indexed
      rw [List.filter_cons, if_neg (by simp [place])] at unindexed
      obtain ⟨d, first, rfl, kind, indexed⟩ := List.map_eq_cons_iff.1 indexed
      obtain ⟨ds, typed, rfl, rfl⟩ := ih indexed unindexed
      exact ⟨d :: ds, by rw [List.map_cons, List.map_cons, kind, typed],
        by rw [pick, if_pos place], by rw [pick, if_neg (by simp [place])]⟩
    | false =>
      rw [List.filter_cons, if_neg (by simp [place])] at indexed
      rw [List.filter_cons, if_pos (by simp [place])] at unindexed
      obtain ⟨d, second, rfl, kind, unindexed⟩ := List.map_eq_cons_iff.1 unindexed
      obtain ⟨ds, typed, rfl, rfl⟩ := ih indexed unindexed
      exact ⟨d :: ds, by rw [List.map_cons, List.map_cons, kind, typed],
        by rw [pick, if_neg (by simp [place])], by rw [pick, if_pos place]⟩

/-- The names of the inputs with items given apart for those that are indexed and for the others. -/
private def named {α : Type} (fs : List Field) (as : List α) : List (String × α) :=
  ((fs.filter Field.isIndexed).map Field.name).zip (pick true fs as) ++
    ((fs.filter fun f => !f.isIndexed).map Field.name).zip (pick false fs as)

private theorem named_perm (fs : List Field) (as : List α) :
    (named fs as).Perm ((fs.map Field.name).zip as) := by
  induction fs generalizing as with
  | nil => exact .nil
  | cons f fs ih =>
    cases as with
    | nil => simp [named, pick]
    | cons a as =>
      cases place : f.isIndexed with
      | true =>
        have first : named (f :: fs) (a :: as) = (f.name, a) :: named fs as := by
          simp [named, pick, place]
        rw [first]
        exact (ih as).cons _
      | false =>
        have middle : (named (f :: fs) (a :: as)).Perm ((f.name, a) :: named fs as) := by
          simp only [named, pick, place, List.filter_cons, Bool.false_eq_true, if_false,
            Bool.not_false, if_true, List.map_cons, List.zip_cons_cons]
          exact List.perm_middle
        exact middle.trans ((ih as).cons _)

private theorem find?_of_mem {items : List (String × α)} {name : String} {a : α}
    (distinct : (items.map Prod.fst).Nodup) (found : (name, a) ∈ items) :
    items.find? (·.1 == name) = some (name, a) := by
  induction items with
  | nil => cases found
  | cons item items ih =>
    rw [List.map_cons, List.nodup_cons] at distinct
    rcases List.mem_cons.1 found with rfl | found
    · rw [List.find?_cons_of_pos (by simp)]
    · have other : item.1 ≠ name := fun same =>
        distinct.1 (List.mem_map.2 ⟨(name, a), found, same.symm⟩)
      rw [List.find?_cons_of_neg (by simpa using other), ih distinct.2 found]

private theorem filterMap_named (distinct : (fs.map Field.name).Nodup) (as : List α)
    (same : as.length = fs.length) :
    (fs.filterMap fun f => ((named fs as).reverse.find? (·.1 == f.name)).map fun (_, a) =>
      (f.name, a)) = (fs.map Field.name).zip as := by
  have whole : ((fs.map Field.name).zip as).map Prod.fst = fs.map Field.name :=
    List.map_fst_zip (by simp [same])
  have names : ((named fs as).reverse.map Prod.fst).Nodup := by
    have perm := ((List.reverse_perm (named fs as)).trans (named_perm fs as)).map Prod.fst
    rw [whole] at perm
    exact perm.nodup_iff.2 distinct
  have found : ∀ item ∈ (fs.map Field.name).zip as, item ∈ (named fs as).reverse := by
    intro item member
    exact List.mem_reverse.2 ((named_perm fs as).mem_iff.2 member)
  -- the items looked up stay the same while the inputs they are looked up for become fewer
  generalize (named fs as).reverse = items at names found
  clear whole distinct
  induction fs generalizing as with
  | nil => rfl
  | cons f fs ih =>
    cases as with
    | nil => cases same
    | cons a as =>
      have here := find?_of_mem names (found (f.name, a) (List.mem_cons_self ..))
      have others := ih as (Nat.succ.inj same) fun item member =>
        found item (List.mem_cons_of_mem _ member)
      simp only [List.filterMap_cons, here, Option.map_some, others, List.map_cons,
        List.zip_cons_cons]

end Field

namespace Event

/-- An event whose logs are read place by place: they start with its topic, its inputs have
different names, and records have values of their types, which fill a topic where they are
indexed. -/
structure Regular (e : Event) : Prop where
  topic_first : e.isAnonymous = false
  distinct : (e.inputs.map Field.name).Nodup
  plain : ∀ f ∈ e.inputs, f.kind.isPlain = true
  topical : ∀ f ∈ e.inputs, f.isIndexed = true → f.kind.isTopical = true

/-- The values are those of the inputs: the indexed ones stand in the topics behind the event's own,
in their order, the others in the data. -/
structure Holds (e : Event) (topics : List Hash) (data : Bytes) (ds : List Datum) : Prop where
  typed : ds.map Datum.kind = e.kinds
  inTopics : ∃ rest, topics = e.topic :: rest ∧ Datum.InTopics rest (Field.pick true e.inputs ds)
  inData : Datum.AllStand data 0 (Field.pick false e.inputs ds)

variable {e : Event} {topics : List Hash} {data : Bytes} {ds : List Datum}

private theorem kinds_pick_true (typed : ds.map Datum.kind = e.kinds) :
    (Field.pick true e.inputs ds).map Datum.kind = e.indexed.map Field.kind := by
  rw [← Field.pick_map, typed, kinds, Field.pick_map, Field.pick_true_self, indexed]

private theorem kinds_pick_false (typed : ds.map Datum.kind = e.kinds) :
    (Field.pick false e.inputs ds).map Datum.kind = e.unindexed.map Field.kind := by
  rw [← Field.pick_map, typed, kinds, Field.pick_map, Field.pick_false_self, unindexed]

private theorem topicKind_of_isTopical {kind : Kind} (topical : kind.isTopical = true) :
    topicKind kind = kind := by
  cases kind with
  | address | uint _ | fixedBytes _ => rfl
  | _ => cases topical

namespace Regular

private theorem indexed_topical (regular : e.Regular) :
    ∀ kind ∈ e.indexed.map Field.kind, kind.isTopical = true := by
  intro kind found
  obtain ⟨f, member, rfl⟩ := List.mem_map.1 found
  obtain ⟨member, indexed⟩ := List.mem_filter.1 member
  exact regular.topical f member indexed

private theorem indexed_plain (regular : e.Regular) :
    ∀ kind ∈ e.indexed.map Field.kind, kind.isPlain = true := by
  intro kind found
  obtain ⟨f, member, rfl⟩ := List.mem_map.1 found
  exact regular.plain f (List.mem_filter.1 member).1

private theorem unindexed_plain (regular : e.Regular) :
    ∀ kind ∈ e.unindexed.map Field.kind, kind.isPlain = true := by
  intro kind found
  obtain ⟨f, member, rfl⟩ := List.mem_map.1 found
  exact regular.plain f (List.mem_filter.1 member).1

private theorem topicKinds (regular : e.Regular) :
    (e.indexed.map fun f => topicKind f.kind) = e.indexed.map Field.kind := by
  refine List.map_congr_left fun f found => ?_
  exact topicKind_of_isTopical (regular.indexed_topical _ (List.mem_map_of_mem found))

private theorem valueTopics_eq_ok (regular : e.Regular) {rest : List Hash} :
    e.valueTopics topics = .ok rest ↔ topics = e.topic :: rest := by
  unfold valueTopics
  rw [regular.topic_first, if_neg Bool.false_ne_true]
  cases topics with
  | nil => simp
  | cons first others =>
    by_cases own : first = e.topic
    · simp [own]
    · simp [own]

private theorem decode_topics (regular : e.Regular) {rest : List Hash}
    (typed : ds.map Datum.kind = e.indexed.map Field.kind) :
    decode (e.indexed.map fun f => topicKind f.kind) (rest.flatMap Hash.bytes) =
        .ok (ds.map Datum.value) ∧ ds.length = rest.length ↔ Datum.InTopics rest ds := by
  have topical : ∀ d ∈ ds, d.kind.isTopical = true := by
    intro d found
    refine regular.indexed_topical _ ?_
    rw [← typed]
    exact List.mem_map_of_mem found
  rw [regular.topicKinds, ← typed, Datum.decode_eq_ok]
  constructor
  · rintro ⟨allStand, same⟩
    exact (Datum.allStand_topics [] topical same).1 allStand
  · intro inTopics
    have same : ds.length = rest.length := (List.Forall₂.length_eq inTopics).symm
    exact ⟨(Datum.allStand_topics [] topical same).2 inTopics, same⟩

end Regular

/-- A log is parsed exactly if it holds values of the inputs, and to those. -/
theorem parse_eq_ok (regular : e.Regular) {items : List (String × Value)} :
    e.parse topics data = .ok items ↔ ∃ ds, e.Holds topics data ds ∧
      items = (e.inputs.map Field.name).zip (ds.map Datum.value) := by
  constructor
  · intro parsed
    obtain ⟨rest, split, parsed⟩ := bind_eq_ok.1 parsed
    obtain ⟨indexed, topicsRead, parsed⟩ := bind_eq_ok.1 parsed
    split at parsed
    · cases parsed
    rename_i same
    obtain ⟨unindexed, dataRead, parsed⟩ := bind_eq_ok.1 parsed
    -- topics and data are decoded apart; the values found there are put in the order of the inputs
    have plain := regular.indexed_plain
    rw [← regular.topicKinds] at plain
    obtain ⟨first, firstTyped, rfl⟩ := Datum.exists_of_decode plain topicsRead
    obtain ⟨second, secondTyped, rfl⟩ := Datum.exists_of_decode regular.unindexed_plain dataRead
    rw [regular.topicKinds] at firstTyped
    rw [← secondTyped, Datum.decode_eq_ok] at dataRead
    rw [Classical.not_not, List.length_map] at same
    obtain ⟨ds, typed, rfl, rfl⟩ := Field.exists_pick firstTyped secondTyped
    have size : ds.length = e.inputs.length := by
      simpa using congrArg List.length typed
    refine ⟨ds, ⟨typed, ⟨rest, regular.valueTopics_eq_ok.1 split,
      (regular.decode_topics firstTyped).1 ⟨topicsRead, same⟩⟩, dataRead⟩, ?_⟩
    rw [← Field.pick_map, ← Field.pick_map] at parsed
    rw [← Except.ok.inj parsed]
    exact Field.filterMap_named regular.distinct _ (by rw [List.length_map, size])
  · rintro ⟨ds, ⟨typed, ⟨rest, split, inTopics⟩, inData⟩, rfl⟩
    obtain ⟨topicsRead, same⟩ := (regular.decode_topics (kinds_pick_true typed)).2 inTopics
    have dataRead := Datum.decode_eq_ok.2 inData
    rw [kinds_pick_false typed] at dataRead
    have size : ds.length = e.inputs.length := by
      simpa [kinds] using congrArg List.length typed
    have whole := Field.filterMap_named regular.distinct (ds.map Datum.value)
      (by rw [List.length_map, size])
    simp only [parse, regular.valueTopics_eq_ok.2 split, topicsRead, dataRead, ok_bind,
      List.length_map, same, ne_eq, not_true_eq_false, if_false]
    rw [← Field.pick_map, ← Field.pick_map]
    exact congrArg Except.ok whole

/-- A log is parsed exactly if it has the event's topic and one more for every indexed input, and
its data are decoded at the types of the others. -/
theorem exists_holds_iff (regular : e.Regular) : (∃ ds, e.Holds topics data ds) ↔
    topics.length = 1 + e.indexed.length ∧ topics.head? = some e.topic ∧
      ∃ vs, decode (e.unindexed.map Field.kind) data = .ok vs := by
  constructor
  · rintro ⟨ds, typed, ⟨rest, rfl, inTopics⟩, inData⟩
    have count : rest.length = e.indexed.length := by
      have kinds := congrArg List.length (kinds_pick_true typed)
      rw [List.length_map, List.length_map] at kinds
      rw [List.Forall₂.length_eq inTopics, kinds]
    refine ⟨by rw [List.length_cons, count, Nat.add_comm], rfl,
      (Field.pick false e.inputs ds).map Datum.value, ?_⟩
    rw [← kinds_pick_false typed]
    exact Datum.decode_eq_ok.2 inData
  · rintro ⟨count, first, vs, dataRead⟩
    obtain ⟨rest, rfl⟩ := List.head?_eq_some_iff.1 first
    have size : rest.length = (e.indexed.map Field.kind).length := by
      rw [List.length_cons] at count
      rw [List.length_map]
      omega
    obtain ⟨indexed, indexedTyped, inTopics⟩ :=
      Datum.exists_inTopics regular.indexed_topical size
    obtain ⟨unindexed, unindexedTyped, rfl⟩ :=
      Datum.exists_of_decode regular.unindexed_plain dataRead
    rw [← unindexedTyped, Datum.decode_eq_ok] at dataRead
    obtain ⟨ds, typed, rfl, rfl⟩ := Field.exists_pick indexedTyped unindexedTyped
    exact ⟨ds, typed, ⟨rest, rfl, inTopics⟩, dataRead⟩

theorem Regular.holds_topic (regular : e.Regular) (typed : ds.map Datum.kind = e.kinds)
    (compact : Value.ListCompact ((Field.pick false e.inputs ds).map Datum.value)) :
    e.Holds (e.topic :: (Field.pick true e.inputs ds).map Datum.topic)
      (encode ((Field.pick false e.inputs ds).map Datum.value)) ds := by
  refine ⟨typed, ⟨_, rfl, Datum.inTopics_topic ?_⟩, Datum.allStand_encode compact⟩
  intro d found
  refine regular.indexed_topical _ ?_
  rw [← kinds_pick_true typed]
  exact List.mem_map_of_mem found

/-- A log that is not parsed is refused for its layout or for lack of data. -/
theorem fault_of_parse {fault : Fault} (failed : e.parse topics data = .error fault) :
    fault = .invalidData ∨ fault = emptyData := by
  rcases bind_eq_error.1 failed with failed | ⟨rest, -, failed⟩
  · unfold valueTopics at failed
    split at failed
    · cases failed
    split at failed
    · exact .inl (Except.error.inj failed).symm
    split at failed
    · cases failed
    · exact .inl (Except.error.inj failed).symm
  rcases bind_eq_error.1 failed with failed | ⟨indexed, -, failed⟩
  · exact fault_of_decode failed
  split at failed
  · exact .inl (Except.error.inj failed).symm
  rcases bind_eq_error.1 failed with failed | ⟨unindexed, -, failed⟩
  · exact fault_of_decode failed
  · cases failed

end Event

end Abi

end NameRights
