/- NameRights/Proofs/Key/Selection
   digest: The first line that names a key or is no text decides which key an operator selects. -/

import Mathlib.Data.List.Induction
import Mathlib.Data.Nat.Digits.Defs
import NameRights.Proofs.Key.Ring
import NameRights.Proofs.Text.Utf8

set_option autoImplicit false
set_option relaxedAutoImplicit false

namespace NameRights

/-- Decimal digits, behind a plus sign or not, and the number they denote. -/
def Text.Denotes (cs : List Char) (n : Nat) : Prop :=
  ∃ digits, (cs = digits ∨ cs = '+' :: digits) ∧ digits ≠ [] ∧
    (∀ c ∈ digits, c.isDigit = true) ∧
    n = Nat.ofDigits 10 (digits.reverse.map fun c => c.toNat - '0'.toNat)

private theorem Json.valueOfDigits_eq (digits : List Char) :
    valueOfDigits digits = Nat.ofDigits 10 (digits.reverse.map fun c => c.toNat - '0'.toNat) := by
  unfold valueOfDigits
  induction digits using List.reverseRecOn with
  | nil => rfl
  | append_singleton digits c ih =>
    rw [List.foldl_append, ih, List.reverse_append, List.reverse_singleton, List.singleton_append,
      List.map_cons, Nat.ofDigits_cons, List.foldl_cons, List.foldl_nil, Nat.add_comm,
      Nat.mul_comm]
    rfl

namespace KeyRing

/-- An input read line by line: each line goes up to the next line feed and takes it up, or to the
end of the input. -/
inductive AreLines : Bytes → List Bytes → Prop
  | nil : AreLines [] []
  | last {line : Bytes} (some : line ≠ []) (unbroken : 10 ∉ line) : AreLines line [line]
  | cons {line rest : Bytes} {lines : List Bytes} (unbroken : 10 ∉ line)
      (next : AreLines rest lines) : AreLines (line ++ 10 :: rest) ((line ++ [10]) :: lines)

private theorem areLines_splitLines (input : Bytes) : AreLines input (splitLines input) := by
  induction input with
  | nil => exact .nil
  | cons b bytes ih =>
    rw [splitLines]
    by_cases feed : b = 10
    · subst feed
      exact .cons List.not_mem_nil ih
    · have other : (b == 10) = false := beq_eq_false_iff_ne.2 feed
      have apart {line : Bytes} (unbroken : 10 ∉ line) : 10 ∉ b :: line := by
        rw [List.mem_cons, not_or]
        exact ⟨fun same => feed same.symm, unbroken⟩
      rw [other]
      generalize splitLines bytes = lines at ih
      cases ih with
      | nil => exact .last (List.cons_ne_nil _ _) (apart List.not_mem_nil)
      | last some unbroken => exact .last (List.cons_ne_nil _ _) (apart unbroken)
      | cons unbroken next => exact .cons (apart unbroken) next

private def unsigned : List Char → List Char
  | '+' :: rest => rest
  | cs => cs

private theorem eq_unsigned_iff {cs digits : List Char} (decimal : ∀ c ∈ digits, c.isDigit = true) :
    (cs = digits ∨ cs = '+' :: digits) ↔ digits = unsigned cs := by
  unfold unsigned
  split
  · rename_i rest
    constructor
    · rintro (rfl | same)
      · exact absurd (decimal '+' List.mem_cons_self) (by decide)
      · exact (List.cons.inj same).2.symm
    · rintro rfl
      exact Or.inr rfl
  · rename_i bare
    constructor
    · rintro (rfl | same)
      · rfl
      · exact absurd same (bare digits)
    · rintro rfl
      exact Or.inl rfl

private theorem typedIndex?_eq_some {s : String} {n : Nat} :
    typedIndex? s = some n ↔ Text.Denotes (Text.trim s).toList n ∧ n < 2 ^ 64 := by
  have read : typedIndex? s =
      if (unsigned (Text.trim s).toList).isEmpty = true ∨
        ((unsigned (Text.trim s).toList).any fun c => !c.isDigit) = true then none
      else if Json.valueOfDigits (unsigned (Text.trim s).toList) < UInt64.size then
        some (Json.valueOfDigits (unsigned (Text.trim s).toList)) else none := by
    unfold typedIndex?
    generalize (Text.trim s).toList = cs
    simp only
    split
    · rfl
    · rename_i bare
      rw [unsigned.eq_2 _ bare]
  rw [read]
  unfold Text.Denotes
  generalize (Text.trim s).toList = cs
  simp only [Option.ite_none_left_eq_some, Option.ite_none_right_eq_some, Option.some.injEq,
    List.isEmpty_iff, List.any_eq_true, Bool.not_eq_eq_eq_not, Bool.not_true, not_or, not_exists,
    not_and, Bool.not_eq_false]
  constructor
  · rintro ⟨⟨some, decimal⟩, small, rfl⟩
    exact ⟨⟨_, (eq_unsigned_iff decimal).2 rfl, some, decimal, Json.valueOfDigits_eq _⟩, small⟩
  · rintro ⟨⟨digits, written, some, decimal, value⟩, small⟩
    obtain rfl := (eq_unsigned_iff decimal).1 written
    rw [← Json.valueOfDigits_eq] at value
    exact ⟨⟨some, decimal⟩, value ▸ small, value.symm⟩

def IsBroken (line : Bytes) : Prop := ∀ s, line ≠ Text.utf8 s

variable (ring : KeyRing)

/-- A text that lists the addresses with their numbers, and asks for one of them. -/
def IsMenu (text : String) : Prop :=
  ∃ items : List String, text = String.join items ++ "Selected key: " ∧
    items.length = ring.addresses.length ∧
    ∀ (index : Nat) (a : Address), ring.addresses[index]? = some a →
      items[index]? = some ("[" ++ toString index ++ "]: " ++ a.hex ++ "\n")

/-- A line behind which no other is read: it is no text, or it is the number of an address, whose
path is chosen then. -/
inductive Settles (line : Bytes) : Except SelectionFault String → Prop
  | broken (unreadable : IsBroken line) : Settles line (.error .invalidText)
  | picked {s path : String} {index : Nat} {a : Address} (text : line = Text.utf8 s)
      (number : Text.Denotes (Text.trim s).toList index) (small : index < 2 ^ 64)
      (shown : ring.addresses[index]? = some a) (stored : ring.find? a = some path) :
      Settles line (.ok path)

/-- What is shown on the lines of an input, and what is chosen: the first line that settles it is the
last one read, and the menu stands before each line that is read and before the end. -/
inductive Course (menu : String) (lines : List Bytes) :
    String → Except SelectionFault String → Prop
  | settled {before after : List Bytes} {line : Bytes} {chosen : Except SelectionFault String}
      (split : lines = before ++ line :: after)
      (passed : ∀ l ∈ before, ∀ other, ¬ ring.Settles l other)
      (settles : ring.Settles line chosen) :
      Course menu lines (String.join (List.replicate (before.length + 1) menu)) chosen
  | exhausted (passed : ∀ l ∈ lines, ∀ other, ¬ ring.Settles l other) :
      Course menu lines (String.join (List.replicate (lines.length + 1) menu)) (.error .endOfInput)

private theorem isMenu_menu : ring.IsMenu ring.menu := by
  refine ⟨_, rfl, ?_, ?_⟩
  · rw [List.length_map, List.length_zipIdx, addresses, List.length_map]
  · intro index a shown
    rw [addresses, List.getElem?_map, Option.map_eq_some_iff] at shown
    obtain ⟨⟨_, path⟩, here, rfl⟩ := shown
    rw [List.getElem?_map, List.getElem?_zipIdx, here, Nat.zero_add]
    rfl

private theorem isBroken_iff {line : Bytes} : IsBroken line ↔ Text.ofUtf8? line = none := by
  rw [Option.eq_none_iff_forall_ne_some]
  simp only [ne_eq, Text.ofUtf8?_eq_some_iff, IsBroken]

variable {ring}

private theorem IsAscending.stored_iff (ascending : ring.IsAscending) {index : Nat} {a : Address}
    {path : String} :
    ring.addresses[index]? = some a ∧ ring.find? a = some path ↔
      ring[index]? = some (a, path) := by
  rw [ascending.find?_eq_some, addresses, List.getElem?_map, Option.map_eq_some_iff]
  constructor
  · rintro ⟨⟨⟨_, other⟩, here, rfl⟩, listed⟩
    have found := ascending.find?_eq_some.2 (List.mem_of_getElem? here)
    cases (ascending.find?_eq_some.2 listed).symm.trans found
    exact here
  · intro here
    exact ⟨⟨_, here, rfl⟩, List.mem_of_getElem? here⟩

private theorem IsAscending.settles_ok_iff (ascending : ring.IsAscending) {line : Bytes}
    {path : String} :
    ring.Settles line (.ok path) ↔ ∃ s a, Text.ofUtf8? line = some s ∧
      ((typedIndex? s).bind fun index => ring[index]?) = some (a, path) := by
  simp only [Text.ofUtf8?_eq_some_iff, Option.bind_eq_some_iff, typedIndex?_eq_some,
    ← ascending.stored_iff]
  constructor
  · intro settles
    cases settles with
    | picked text number small shown stored =>
      exact ⟨_, _, text, _, ⟨number, small⟩, shown, stored⟩
  · rintro ⟨s, a, text, index, ⟨number, small⟩, shown, stored⟩
    exact .picked text number small shown stored

private theorem IsAscending.selectFrom_cons (ascending : ring.IsAscending) (line : Bytes)
    (lines : List Bytes) :
    (∃ chosen, ring.Settles line chosen ∧ ring.selectFrom (line :: lines) = (ring.menu, chosen)) ∨
    ((∀ chosen, ¬ ring.Settles line chosen) ∧ ring.selectFrom (line :: lines) =
      (ring.menu ++ (ring.selectFrom lines).1, (ring.selectFrom lines).2)) := by
  rw [selectFrom]
  split
  · rename_i broken
    exact Or.inl ⟨_, .broken (isBroken_iff.2 broken), rfl⟩
  · rename_i s text
    split
    · rename_i a path here
      exact Or.inl ⟨_, ascending.settles_ok_iff.2 ⟨s, a, text, here⟩, rfl⟩
    · rename_i missed
      refine Or.inr ⟨?_, rfl⟩
      intro chosen settles
      cases chosen with
      | error fault =>
        cases settles with
        | broken unreadable => cases text.symm.trans (isBroken_iff.1 unreadable)
      | ok path =>
        obtain ⟨_, a, text', here⟩ := ascending.settles_ok_iff.1 settles
        cases text.symm.trans text'
        cases missed.symm.trans here

private theorem Course.cons {menu shown : String} {line : Bytes} {lines : List Bytes}
    {chosen : Except SelectionFault String} (unsettled : ∀ other, ¬ ring.Settles line other)
    (course : ring.Course menu lines shown chosen) :
    ring.Course menu (line :: lines) (menu ++ shown) chosen := by
  have again (count : Nat) : menu ++ String.join (List.replicate count menu) =
      String.join (List.replicate (count + 1) menu) := by
    rw [List.replicate_succ, String.join_cons]
  cases course with
  | settled split passed settles =>
    rw [again]
    exact .settled (congrArg (line :: ·) split) (List.forall_mem_cons.2 ⟨unsettled, passed⟩) settles
  | exhausted passed =>
    rw [again]
    exact .exhausted (List.forall_mem_cons.2 ⟨unsettled, passed⟩)

theorem IsAscending.course_selectFrom (ascending : ring.IsAscending) (lines : List Bytes) :
    ring.Course ring.menu lines (ring.selectFrom lines).1 (ring.selectFrom lines).2 := by
  have once : ring.menu = String.join (List.replicate 1 ring.menu) := by
    rw [List.replicate_one, String.join_cons, String.join_nil, String.append_empty]
  have unread (l : Bytes) (listed : l ∈ []) (other : Except SelectionFault String) :
      ¬ ring.Settles l other := absurd listed List.not_mem_nil
  induction lines with
  | nil =>
    rw [selectFrom, once]
    exact .exhausted unread
  | cons line lines ih =>
    rcases ascending.selectFrom_cons line lines with ⟨chosen, settles, ended⟩ | ⟨passed, goes⟩
    · rw [ended, once]
      exact .settled (List.nil_append _).symm unread settles
    · rw [goes]
      exact ih.cons passed

/-- An operator selects the key whose number is on the first line that holds the number of a key,
unless a line that is no text comes first or the input ends before. The menu is shown before every
line that is read and before the end. The keys of a directory form such a ring
(`KeyDirectory.isAscending_list`). -/
theorem select_course (ring : KeyRing) (ascending : ring.IsAscending) (input : Bytes) :
    ∃ menu lines shown, ring.IsMenu menu ∧ AreLines input lines ∧
      ring.Course menu lines shown (ring.select input).2 ∧
      (ring.select input).1 = "Select key:\n" ++ shown := by
  have course := ascending.course_selectFrom (splitLines input)
  exact ⟨ring.menu, splitLines input, _, ring.isMenu_menu, areLines_splitLines input, course, rfl⟩

/-- Two keys, and an input whose third line is the number of the second. -/
theorem select_second :
    let ring : KeyRing := [(.replicate 1, "/keys/first.json"), (.replicate 2, "/keys/second.json")]
    ring.IsAscending ∧ ∃ menu lines shown, ring.IsMenu menu ∧
      AreLines (Text.utf8 "7\nfoo\n1\n") lines ∧
      ring.Course menu lines shown (ring.select (Text.utf8 "7\nfoo\n1\n")).2 ∧
      (ring.select (Text.utf8 "7\nfoo\n1\n")).1 = "Select key:\n" ++ shown := by
  intro ring
  have ascending : ring.IsAscending := by decide
  exact ⟨ascending, select_course ring ascending _⟩

end KeyRing

end NameRights
