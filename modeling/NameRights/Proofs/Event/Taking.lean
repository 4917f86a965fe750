/- NameRights/Proofs/Event/Taking
   digest: The values of a log are taken by name, each one once. What a taking comes to depends on
   the earlier takings of the same name only. -/

import Mathlib.Data.List.Nodup
import Mathlib.Data.List.Perm.Basic
import NameRights.Event.Parsed

set_option autoImplicit false
set_option relaxedAutoImplicit false

namespace NameRights.LogParams

open Abi (Value)

private theorem swapRemove_perm {α : Type} {items : List α} {position : Nat}
    (inside : position < items.length) :
    (swapRemove items position).Perm (items.eraseIdx position) := by
  rcases List.eq_nil_or_concat items with rfl | ⟨front, last, rfl⟩
  · cases inside
  · rw [List.concat_eq_append] at inside ⊢
    have found : (front ++ [last]).getLast? = some last := List.getLast?_concat
    rw [List.length_append, List.length_singleton] at inside
    simp only [swapRemove, found]
    by_cases final : position = front.length
    · rw [final, List.set_append_right _ _ (Nat.le_refl _),
        List.eraseIdx_append_of_length_le (Nat.le_refl _), Nat.sub_self]
      simp
    · have early : position < front.length := by omega
      have moved : (front.set position last).Perm (last :: front.eraseIdx position) :=
        List.set_perm_cons_eraseIdx early last
      rw [List.set_append_left _ _ early, List.dropLast_concat,
        List.eraseIdx_append_of_lt_length early]
      exact moved.trans (List.perm_append_singleton last _).symm

variable {α : Type} {params : LogParams} {name : String} {v : Value}
  {read : Value → Except ChainError α}

private theorem mem_names : name ∈ params.values.map Prod.fst ↔ ∃ v, (name, v) ∈ params.values := by
  simp

private theorem filter_of_absent {items : List (String × Value)}
    (absent : name ∉ items.map Prod.fst) :
    items.filter (·.1 ≠ name) = items := by
  apply List.filter_eq_self.2
  intro item found
  apply decide_eq_true
  intro same
  exact absent (same ▸ List.mem_map_of_mem found)

/-- No two values have one name. -/
def Distinct (params : LogParams) : Prop := (params.values.map Prod.fst).Nodup

instance (params : LogParams) : Decidable params.Distinct :=
  inferInstanceAs (Decidable (params.values.map Prod.fst).Nodup)

private theorem Distinct.eq_of_mem (distinct : params.Distinct) {item : String × Value}
    (found : item ∈ params.values) (present : (name, v) ∈ params.values) (same : item.1 = name) :
    item = (name, v) :=
  List.inj_on_of_nodup_map distinct found present same

private theorem Distinct.eraseIdx_perm (distinct : params.Distinct) {position : Nat}
    (inside : position < params.values.length) (named : params.values[position].1 = name) :
    (params.values.eraseIdx position).Perm (params.values.filter (·.1 ≠ name)) := by
  have whole := List.getElem_cons_eraseIdx_perm inside
  have names := (whole.map Prod.fst).nodup_iff.2 distinct
  rw [List.map_cons, List.nodup_cons, named] at names
  have kept := whole.filter (·.1 ≠ name)
  rwa [List.filter_cons_of_neg (by simpa using named), filter_of_absent names.1] at kept

private theorem take_of_absent (absent : name ∉ params.values.map Prod.fst) :
    params.take read name = (.error (.abi (.invalidName name)), params) := by
  have missing : params.values.findIdx? (·.1 == name) = none := by
    rw [List.findIdx?_eq_none_iff]
    intro item found
    rw [beq_eq_false_iff_ne]
    intro same
    exact absent (same ▸ List.mem_map_of_mem found)
  rw [take, missing]

private theorem Distinct.take_of_mem (distinct : params.Distinct)
    (read : Value → Except ChainError α)
    (present : (name, v) ∈ params.values) :
    ∃ left : LogParams, params.take read name = ((read v).mapError .chain, left) ∧
      left.values.Perm (params.values.filter (·.1 ≠ name)) := by
  cases place : params.values.findIdx? (·.1 == name) with
  | none =>
    have other := List.findIdx?_eq_none_iff.1 place (name, v) present
    rw [beq_self_eq_true] at other
    cases other
  | some position =>
    obtain ⟨inside, named, -⟩ := List.findIdx?_eq_some_iff_getElem.1 place
    have named := beq_iff_eq.1 named
    have item : params.values[position]? = some (name, v) := by
      rw [List.getElem?_eq_getElem inside,
        distinct.eq_of_mem (List.getElem_mem inside) present named]
    refine ⟨⟨swapRemove params.values position⟩, ?_, ?_⟩
    · rw [take, place]
      simp only [item]
    · exact (swapRemove_perm inside).trans (distinct.eraseIdx_perm inside named)

private theorem Distinct.take_left (distinct : params.Distinct) (read : Value → Except ChainError α)
    (name : String) :
    (params.take read name).2.values.Perm (params.values.filter (·.1 ≠ name)) := by
  by_cases present : name ∈ params.values.map Prod.fst
  · obtain ⟨v, present⟩ := mem_names.1 present
    obtain ⟨left, taken, others⟩ := distinct.take_of_mem read present
    rwa [taken]
  · rw [take_of_absent present, filter_of_absent present]

private theorem Distinct.take (distinct : params.Distinct) (read : Value → Except ChainError α)
    (name : String) : (params.take read name).2.Distinct := by
  have left := (distinct.take_left read name).map Prod.fst
  exact left.nodup_iff.2 (distinct.sublist (List.filter_sublist.map Prod.fst))

private theorem Distinct.mem_take (distinct : params.Distinct) {item : String × Value} :
    item ∈ (params.take read name).2.values ↔ item ∈ params.values ∧ item.1 ≠ name := by
  rw [(distinct.take_left read name).mem_iff, List.mem_filter, decide_eq_true_iff]

/-! Takings one after the other. -/

/-- A value that is asked for by its name, and how it is read. -/
structure Taking where
  Target : Type
  read : Value → Except ChainError Target
  name : String

/-- A taking with what it came to. -/
abbrev Taken := (t : Taking) × Except ContractError t.Target

/-- Takes one value after the other, whatever each taking comes to. -/
def takeAll : List Taking → LogParams → List Taken × LogParams
  | [], params => ([], params)
  | t :: ts, params =>
    let (outcome, left) := params.take t.read t.name
    let (outcomes, last) := takeAll ts left
    (⟨t, outcome⟩ :: outcomes, last)

private theorem takeAll_cons (t : Taking) (ts : List Taking) (params : LogParams) :
    takeAll (t :: ts) params =
      (⟨t, (params.take t.read t.name).1⟩ :: (takeAll ts (params.take t.read t.name).2).1,
        (takeAll ts (params.take t.read t.name).2).2) := rfl

private theorem takeAll_append (ts us : List Taking) (params : LogParams) :
    (takeAll (ts ++ us) params).1 =
      (takeAll ts params).1 ++ (takeAll us (takeAll ts params).2).1 := by
  induction ts generalizing params with
  | nil => rfl
  | cons t ts ih =>
    rw [List.cons_append, takeAll_cons, takeAll_cons, ih, List.cons_append]

private theorem map_fst_takeAll (ts : List Taking) (params : LogParams) :
    (takeAll ts params).1.map Sigma.fst = ts := by
  induction ts generalizing params with
  | nil => rfl
  | cons t ts ih => rw [takeAll_cons, List.map_cons, ih]

private theorem Distinct.takeAll_left (distinct : params.Distinct) (takings : List Taking) :
    (takeAll takings params).2.values.Perm
      (params.values.filter fun item => item.1 ∉ takings.map Taking.name) := by
  induction takings generalizing params with
  | nil =>
    rw [List.map_nil, List.filter_eq_self.2 fun item _ => decide_eq_true List.not_mem_nil]
    rfl
  | cons t ts ih =>
    have first := (distinct.take_left t.read t.name).filter fun item => item.1 ∉ ts.map Taking.name
    rw [List.filter_filter] at first
    refine ((ih (distinct.take t.read t.name)).trans first).trans (.of_eq ?_)
    apply List.filter_congr
    intro item _
    rw [← Bool.decide_and, decide_eq_decide, List.map_cons, List.mem_cons, not_or]
    exact and_comm

private theorem Distinct.takeAll (distinct : params.Distinct) (takings : List Taking) :
    (takeAll takings params).2.Distinct := by
  have left := (distinct.takeAll_left takings).map Prod.fst
  exact left.nodup_iff.2 (distinct.sublist (List.filter_sublist.map Prod.fst))

private theorem Distinct.take_fst_eq {others : LogParams} (distinct : params.Distinct)
    (otherDistinct : others.Distinct) (read : Value → Except ChainError α)
    (same : ∀ v, (name, v) ∈ params.values ↔ (name, v) ∈ others.values) :
    (params.take read name).1 = (others.take read name).1 := by
  by_cases present : name ∈ params.values.map Prod.fst
  · obtain ⟨v, present⟩ := mem_names.1 present
    obtain ⟨left, taken, -⟩ := distinct.take_of_mem read present
    obtain ⟨otherLeft, otherTaken, -⟩ := otherDistinct.take_of_mem read ((same v).1 present)
    rw [taken, otherTaken]
  · have absent : name ∉ others.values.map Prod.fst := by
      intro found
      obtain ⟨v, found⟩ := mem_names.1 found
      exact present (mem_names.2 ⟨v, (same v).2 found⟩)
    rw [take_of_absent present, take_of_absent absent]

private theorem Distinct.takeAll_filter {others : LogParams} (distinct : params.Distinct)
    (otherDistinct : others.Distinct) (takings : List Taking)
    (same : ∀ v, (name, v) ∈ params.values ↔ (name, v) ∈ others.values) :
    (LogParams.takeAll takings params).1.filter (·.1.name = name) =
      (LogParams.takeAll (takings.filter (·.name = name)) others).1 := by
  induction takings generalizing params others with
  | nil => rfl
  | cons t ts ih =>
    have left := distinct.take t.read t.name
    rw [takeAll_cons]
    by_cases own : t.name = name
    · have gone : ∀ v, (name, v) ∈ (params.take t.read t.name).2.values ↔
          (name, v) ∈ (others.take t.read t.name).2.values := by
        intro v
        rw [distinct.mem_take, otherDistinct.mem_take, same v]
      have outcome := distinct.take_fst_eq otherDistinct t.read
        (own.symm ▸ same : ∀ v, (t.name, v) ∈ params.values ↔ (t.name, v) ∈ others.values)
      rw [List.filter_cons_of_pos (by simpa using own), List.filter_cons_of_pos (by simpa using own),
        takeAll_cons, ih left (otherDistinct.take t.read t.name) gone, outcome]
    · have kept : ∀ v, (name, v) ∈ (params.take t.read t.name).2.values ↔
          (name, v) ∈ others.values := by
        intro v
        rw [distinct.mem_take, same v]
        exact and_iff_left (Ne.symm own)
      rw [List.filter_cons_of_neg (by simpa using own), List.filter_cons_of_neg (by simpa using own),
        ih left otherDistinct kept]

private theorem Distinct.take_fresh (distinct : params.Distinct) {before : List Taking}
    (present : (name, v) ∈ params.values) (fresh : name ∉ before.map Taking.name) :
    ((LogParams.takeAll before params).2.take read name).1 = (read v).mapError .chain := by
  have kept : (name, v) ∈ (LogParams.takeAll before params).2.values := by
    rw [(distinct.takeAll_left before).mem_iff, List.mem_filter]
    exact ⟨present, decide_eq_true fresh⟩
  obtain ⟨left, taken, -⟩ := (distinct.takeAll before).take_of_mem read kept
  rw [taken]

private theorem Distinct.take_refused (distinct : params.Distinct) {before : List Taking}
    (refused : name ∉ params.values.map Prod.fst ∨ name ∈ before.map Taking.name) :
    ((LogParams.takeAll before params).2.take read name).1 =
      .error (.abi (.invalidName name)) := by
  have absent : name ∉ (LogParams.takeAll before params).2.values.map Prod.fst := by
    intro found
    obtain ⟨v, found⟩ := mem_names.1 found
    rw [(distinct.takeAll_left before).mem_iff, List.mem_filter, decide_eq_true_iff] at found
    rcases refused with missing | gone
    · exact missing (mem_names.2 ⟨v, found.1⟩)
    · exact found.2 gone
  rw [take_of_absent absent]

private theorem perm_of_filter_eq {β : Type _} {key : β → String} {items others : List β}
    (same : ∀ k, items.filter (key · = k) = others.filter (key · = k)) : items.Perm others := by
  classical
  rw [List.perm_iff_count]
  intro b
  have counts := congrArg (List.count b) (same (key b))
  rwa [List.count_filter (by simp), List.count_filter (by simp)] at counts

private theorem eq_of_perm_short {β : Type _} {items others : List β} (perm : items.Perm others)
    (short : items.length ≤ 1) : items = others := by
  match items, short with
  | [], _ => exact perm.nil_eq
  | [b], _ => exact perm.symm.eq_singleton.symm

private theorem filter_eq_of_perm {ts us : List Taking} (perm : ts.Perm us)
    (different : (ts.map Taking.name).Nodup) (name : String) :
    ts.filter (·.name = name) = us.filter (·.name = name) := by
  apply eq_of_perm_short (perm.filter _)
  have once := List.nodup_iff_count_le_one.1 different name
  rwa [List.count, List.countP_map, List.countP_eq_length_filter] at once

/-- Values of different names are taken independently of each other, whatever they are read as. The
first taking of a name comes to the reading of its value, every other one is refused by its name,
and what is left are the values of the names not taken yet. The takings of one name come to the
same without those of the other names. So the order does not count, except among the takings of
one name. -/
theorem taking_course (params : LogParams) (distinct : params.Distinct) :
    (∀ (before after : List Taking) (t : Taking), ∃ earlier outcome later,
      (takeAll (before ++ t :: after) params).1 = earlier ++ ⟨t, outcome⟩ :: later ∧
        earlier.map Sigma.fst = before ∧ later.map Sigma.fst = after ∧
        (∀ v, (t.name, v) ∈ params.values → t.name ∉ before.map Taking.name →
          outcome = (t.read v).mapError .chain) ∧
        (t.name ∉ params.values.map Prod.fst ∨ t.name ∈ before.map Taking.name →
          outcome = .error (.abi (.invalidName t.name)))) ∧
    (∀ ts : List Taking, (takeAll ts params).2.values.Perm
      (params.values.filter fun item => item.1 ∉ ts.map Taking.name)) ∧
    (∀ (ts : List Taking) (name : String), (takeAll ts params).1.filter (·.1.name = name) =
      (takeAll (ts.filter (·.name = name)) params).1) ∧
    (∀ ts us : List Taking, (∀ name, ts.filter (·.name = name) = us.filter (·.name = name)) →
      (takeAll ts params).1.Perm (takeAll us params).1) ∧
    ∀ ts us : List Taking, ts.Perm us → (ts.map Taking.name).Nodup →
      (takeAll ts params).1.Perm (takeAll us params).1 := by
  have alone (ts : List Taking) (name : String) := distinct.takeAll_filter distinct ts
    fun v => Iff.refl ((name, v) ∈ params.values)
  have regardless {ts us : List Taking}
      (same : ∀ name, ts.filter (·.name = name) = us.filter (·.name = name)) :
      (takeAll ts params).1.Perm (takeAll us params).1 := by
    apply perm_of_filter_eq
    intro name
    rw [alone ts name, alone us name, same name]
  refine ⟨?_, distinct.takeAll_left, alone, fun ts us => regardless, ?_⟩
  · intro before after t
    refine ⟨(takeAll before params).1, ((takeAll before params).2.take t.read t.name).1,
      (takeAll after ((takeAll before params).2.take t.read t.name).2).1, ?_,
      map_fst_takeAll _ _, map_fst_takeAll _ _, ?_, ?_⟩
    · rw [takeAll_append, takeAll_cons]
    · intro v present fresh
      exact distinct.take_fresh present fresh
    · exact distinct.take_refused
  · intro ts us perm different
    exact regardless (filter_eq_of_perm perm different)

/-- The values of a registration, in the order of the event's inputs. -/
def registration : LogParams :=
  ⟨[("id", .uint 1), ("name", .string "alice"), ("owner", .address ⟨0xaa⟩),
    ("expires", .uint 31536000)]⟩

/-- An owner that is read as a truth value is gone, and the values behind it are still found. -/
theorem taking_course_registration :
    registration.Distinct ∧
    (∃ earlier later,
      (takeAll [⟨Bool, Abi.Shape.bool.read, "owner"⟩, ⟨Word, Abi.Shape.word.read, "expires"⟩,
          ⟨Address, Abi.Shape.address.read, "owner"⟩] registration).1 =
        earlier ++ ⟨⟨Word, Abi.Shape.word.read, "expires"⟩, .ok 31536000⟩ :: later) ∧
    ∃ earlier later,
      (takeAll [⟨Bool, Abi.Shape.bool.read, "owner"⟩, ⟨Word, Abi.Shape.word.read, "expires"⟩,
          ⟨Address, Abi.Shape.address.read, "owner"⟩] registration).1 =
        earlier ++ ⟨⟨Address, Abi.Shape.address.read, "owner"⟩,
          .error (.abi (.invalidName "owner"))⟩ :: later := by
  have distinct : registration.Distinct := by decide
  obtain ⟨outcomes, -⟩ := taking_course registration distinct
  refine ⟨distinct, ?_, ?_⟩
  · obtain ⟨earlier, outcome, later, run, -, -, value, -⟩ :=
      outcomes [⟨Bool, Abi.Shape.bool.read, "owner"⟩] [⟨Address, Abi.Shape.address.read, "owner"⟩]
        ⟨Word, Abi.Shape.word.read, "expires"⟩
    obtain rfl := value (.uint 31536000) (by simp [registration]) (by simp)
    exact ⟨earlier, later, run⟩
  · obtain ⟨earlier, outcome, later, run, -, -, -, refused⟩ :=
      outcomes [⟨Bool, Abi.Shape.bool.read, "owner"⟩, ⟨Word, Abi.Shape.word.read, "expires"⟩] []
        ⟨Address, Abi.Shape.address.read, "owner"⟩
    obtain rfl := refused (Or.inr (by simp))
    exact ⟨earlier, later, run⟩

end NameRights.LogParams
