/- NameRights/Proofs/Command/Spelling
   digest: Which texts are read as a selector or as an address: spelled bytes behind any number of
   marks, in an address also with blanks among the digits. -/

import NameRights.Command.Argument
import NameRights.Proofs.Result
import NameRights.Proofs.Text.Numeral
import NameRights.Proofs.Text.Utf8
import NameRights.Proofs.Word

set_option autoImplicit false
set_option relaxedAutoImplicit false

namespace NameRights

open Hex (Spells)

variable {c : Char} {cs : List Char} {bytes : Bytes}

namespace Hex

theorem stripMark?_eq_some_iff {rest : List Char} :
    stripMark? cs = some rest ↔ cs = '0' :: 'x' :: rest := by
  unfold stripMark?
  split
  · simp
  · rename_i other
    constructor
    · intro marked
      cases marked
    · rintro rfl
      exact absurd rfl (other rest)

private theorem stripMarks_of_unmarked (unmarked : stripMark? cs = none) : stripMarks cs = cs := by
  unfold stripMarks
  split
  · cases unmarked
  · rfl

theorem toList_marked (s : String) : ("0x" ++ s).toList = '0' :: 'x' :: s.toList := by
  rw [String.toList_append]
  rfl

def marked : Nat → List Char → List Char
  | 0, cs => cs
  | k + 1, cs => '0' :: 'x' :: marked k cs

private theorem stripMarks_marked (k : Nat) (cs : List Char) :
    stripMarks (marked k cs) = stripMarks cs := by
  induction k with
  | zero => rfl
  | succ k ih => rw [marked, stripMarks, ih]

private theorem exists_marked (cs : List Char) : ∃ k, cs = marked k (stripMarks cs) := by
  fun_induction stripMarks cs with
  | case1 rest ih =>
    obtain ⟨k, whole⟩ := ih
    refine ⟨k + 1, ?_⟩
    rw [marked, ← whole]
  | case2 cs => exact ⟨0, rfl⟩

private theorem stripMarks_of_plain (plain : 'x' ∉ cs) : stripMarks cs = cs := by
  apply stripMarks_of_unmarked
  cases found : stripMark? cs with
  | none => rfl
  | some rest =>
    obtain rfl := stripMark?_eq_some_iff.1 found
    exact absurd (by simp) plain

private theorem stripMarks_of_marked {k : Nat} (plain : 'x' ∉ cs) :
    stripMarks (marked k cs) = cs := by
  rw [stripMarks_marked, stripMarks_of_plain plain]

private theorem marked_append (k : Nat) (cs ds : List Char) :
    marked k (cs ++ ds) = marked k cs ++ ds := by
  induction k with
  | zero => rfl
  | succ k ih => rw [marked, marked, ih, List.cons_append, List.cons_append]

private theorem length_marked (k : Nat) (cs : List Char) :
    (marked k cs).length = 2 * k + cs.length := by
  induction k with
  | zero => simp [marked]
  | succ k ih =>
    rw [marked, List.length_cons, List.length_cons, ih]
    omega

private theorem marked_inj {j k : Nat} {ds : List Char} (plain : 'x' ∉ cs) (otherPlain : 'x' ∉ ds)
    (same : marked k cs = marked j ds) : k = j ∧ cs = ds := by
  have rest : cs = ds := by
    rw [← stripMarks_of_marked (k := k) plain, same, stripMarks_of_marked otherPlain]
  have lengths := congrArg List.length same
  rw [length_marked, length_marked, rest] at lengths
  exact ⟨by omega, rest⟩

private theorem Spells.plain (spelled : Spells cs bytes) : 'x' ∉ cs := by
  intro found
  have other := spelled.areDigits.plain (Nat.le_refl 16) found
  exact other.2 rfl

def solid (cs : List Char) : List Char := cs.filter fun c => !isBlank c

private theorem solid_cons_of_blank (blank : isBlank c = true) : solid (c :: cs) = solid cs := by
  rw [solid, List.filter_cons_of_neg (by simp [blank]), solid]

private theorem solid_cons_of_visible (visible : ¬ isBlank c = true) :
    solid (c :: cs) = c :: solid cs := by
  rw [solid, List.filter_cons_of_pos (by simp [visible]), solid]

private theorem solid_eq_self (visible : ∀ c ∈ cs, isBlank c = false) : solid cs = cs := by
  apply List.filter_eq_self.2
  intro c found
  rw [visible c found, Bool.not_false]

private theorem Spells.solid_plain (spelled : Spells (solid cs) bytes) : 'x' ∉ cs := by
  intro found
  exact spelled.plain (List.mem_filter.2 ⟨found, rfl⟩)

private theorem Spells.visible (spelled : Spells cs bytes) (found : c ∈ cs) :
    isBlank c = false := by
  induction spelled with
  | nil => cases found
  | cons high low rest ih =>
    rcases List.mem_cons.1 found with rfl | found
    · exact isBlank_of_digit high
    · rcases List.mem_cons.1 found with rfl | found
      · exact isBlank_of_digit low
      · exact ih found

/-- Bytes as they are meant to be typed: two digits for each, behind one mark at most. -/
def IsTyped (s : String) (bytes : Bytes) : Prop :=
  ∃ k ≤ 1, ∃ cs, s.toList = marked k cs ∧ Spells cs bytes

/-- Spelled bytes behind two marks or more. -/
def IsMarkedAgain (s : String) (bytes : Bytes) : Prop :=
  ∃ k > 1, ∃ cs, s.toList = marked k cs ∧ Spells cs bytes

/-- Spelled bytes with blanks among or around the digits, behind any number of marks. -/
def IsSpaced (s : String) (bytes : Bytes) : Prop :=
  ∃ k cs, s.toList = marked k cs ∧ (∃ c ∈ cs, isBlank c = true) ∧ Spells (solid cs) bytes

variable {s : String}

private theorem spells_stripMarks_iff :
    Spells (stripMarks s.toList) bytes ↔ IsTyped s bytes ∨ IsMarkedAgain s bytes := by
  constructor
  · intro spelled
    obtain ⟨k, whole⟩ := exists_marked s.toList
    rcases Nat.lt_or_ge 1 k with many | few
    · exact Or.inr ⟨k, many, _, whole, spelled⟩
    · exact Or.inl ⟨k, few, _, whole, spelled⟩
  · rintro (⟨k, -, cs, whole, spelled⟩ | ⟨k, -, cs, whole, spelled⟩)
    · rwa [whole, stripMarks_of_marked spelled.plain]
    · rwa [whole, stripMarks_of_marked spelled.plain]

private theorem spells_solid_iff :
    Spells (solid (stripMarks s.toList)) bytes ↔
      IsTyped s bytes ∨ IsMarkedAgain s bytes ∨ IsSpaced s bytes := by
  rw [← or_assoc, ← spells_stripMarks_iff]
  constructor
  · intro spelled
    by_cases blank : ∃ c ∈ stripMarks s.toList, isBlank c = true
    · obtain ⟨k, whole⟩ := exists_marked s.toList
      exact Or.inr ⟨k, _, whole, blank, spelled⟩
    · have visible : ∀ c ∈ stripMarks s.toList, isBlank c = false := by
        intro c found
        rw [← Bool.not_eq_true]
        intro seen
        exact blank ⟨c, found, seen⟩
      rw [solid_eq_self visible] at spelled
      exact Or.inl spelled
  · rintro (spelled | ⟨k, cs, whole, -, spelled⟩)
    · rwa [solid_eq_self fun c found => spelled.visible found]
    · rwa [whole, stripMarks_of_marked spelled.solid_plain]

theorem isTyped_of_spells (spelled : Spells s.toList bytes) :
    IsTyped s bytes ∧ IsTyped ("0x" ++ s) bytes :=
  ⟨⟨0, Nat.zero_le 1, s.toList, rfl, spelled⟩, ⟨1, Nat.le_refl 1, s.toList, toList_marked s, spelled⟩⟩

private theorem IsTyped.isMarkedAgain (typed : IsTyped s bytes) :
    IsMarkedAgain ("0x" ++ ("0x" ++ s)) bytes := by
  obtain ⟨k, -, cs, whole, spelled⟩ := typed
  refine ⟨k + 2, by omega, cs, ?_, spelled⟩
  rw [toList_marked, toList_marked, whole, marked, marked]

private theorem IsTyped.isSpaced (typed : IsTyped s bytes) : IsSpaced (s ++ " ") bytes := by
  obtain ⟨k, -, cs, whole, spelled⟩ := typed
  refine ⟨k, cs ++ [' '], ?_, ⟨' ', by simp, rfl⟩, ?_⟩
  · rw [String.toList_append, whole, marked_append]
    rfl
  · have kept : solid (cs ++ [' ']) = cs ++ [] := by
      rw [solid, List.filter_append]
      exact congrArg (· ++ []) (solid_eq_self fun c found => spelled.visible found)
    rwa [kept, List.append_nil]

private theorem not_isTyped {other : Bytes} (misread : IsMarkedAgain s bytes ∨ IsSpaced s bytes) :
    ¬ IsTyped s other := by
  rintro ⟨j, few, ds, typed, digits⟩
  rcases misread with ⟨k, many, cs, whole, spelled⟩ | ⟨k, cs, whole, ⟨c, found, blank⟩, spelled⟩
  · have same := marked_inj spelled.plain digits.plain (whole.symm.trans typed)
    omega
  · obtain ⟨-, rfl⟩ := marked_inj spelled.solid_plain digits.plain (whole.symm.trans typed)
    rw [digits.visible found] at blank
    cases blank

end Hex

namespace Selector

theorem parse_eq_ok {s : String} {f : Selector} :
    parse s = .ok f ↔ Hex.IsTyped s f.bytes ∨ Hex.IsMarkedAgain s f.bytes := by
  rw [← Hex.spells_stripMarks_iff]
  have decoded : ∀ bytes, Hex.decode (Text.octets (String.ofList (Hex.stripMarks s.toList))) =
      .ok bytes ↔ Spells (Hex.stripMarks s.toList) bytes := by
    intro bytes
    rw [Hex.decode_eq_ok]
    constructor
    · intro spelled
      have ascii := Text.eq_of_octets_ascii fun c found =>
        (spelled.areDigits.plain (Nat.le_refl 16) found).1
      rwa [ascii] at spelled
    · intro spelled
      have ascii := Text.octets_of_ascii fun c found =>
        (spelled.areDigits.plain (Nat.le_refl 16) found).1
      rwa [ascii]
  unfold Text.octets at decoded
  rw [← decoded]
  unfold parse
  constructor
  · intro read
    dsimp only at read
    split at read
    · cases read
    · rename_i bytes found
      split at read
      · rename_i size
        cases read
        rw [found, bytes_ofBytes size]
      · cases read
  · intro found
    simp only [found, length_bytes, if_true, ofBytes_bytes]

end Selector

namespace Address

/-- Digits that complete bytes, of the first of which one digit may have been read. -/
inductive Completes : Option Nat → List Char → Bytes → Prop
  | whole {cs : List Char} {bytes : Bytes} (spelled : Spells cs bytes) : Completes none cs bytes
  | half {h l : Nat} {lo : Char} {cs : List Char} {bytes : Bytes} (low : Hex.digit? lo = some l)
      (rest : Spells cs bytes) :
      Completes (some h) (lo :: cs) (UInt8.ofNat (h * 16 + l) :: bytes)

variable {half : Option Nat} {d h : Nat}

private theorem completes_nil_iff : Completes half [] bytes ↔ half = none ∧ bytes = [] := by
  constructor
  · intro completes
    cases completes with
    | whole spelled =>
      cases spelled
      exact ⟨rfl, rfl⟩
  · rintro ⟨rfl, rfl⟩
    exact .whole .nil

private theorem Completes.exists_digit (completes : Completes half (c :: cs) bytes) :
    bytes ≠ [] ∧ ∃ d, Hex.digit? c = some d := by
  cases completes with
  | whole spelled =>
    cases spelled with
    | cons high low rest => exact ⟨List.cons_ne_nil _ _, _, high⟩
  | half low rest => exact ⟨List.cons_ne_nil _ _, _, low⟩

private theorem completes_none_cons_iff (digit : Hex.digit? c = some d) :
    Completes none (c :: cs) bytes ↔ Completes (some d) cs bytes := by
  constructor
  · intro completes
    cases completes with
    | whole spelled =>
      cases spelled with
      | cons high low rest =>
        cases digit.symm.trans high
        exact .half low rest
  · intro completes
    cases completes with
    | half low rest => exact .whole (.cons digit low rest)

private theorem completes_some_cons_iff (digit : Hex.digit? c = some d) :
    Completes (some h) (c :: cs) bytes ↔
      ∃ back, bytes = UInt8.ofNat (h * 16 + d) :: back ∧ Completes none cs back := by
  constructor
  · intro completes
    cases completes with
    | half low rest =>
      cases digit.symm.trans low
      exact ⟨_, rfl, .whole rest⟩
  · rintro ⟨back, rfl, completes⟩
    cases completes with
    | whole spelled => exact .half digit spelled

private theorem parseFrom_eq_ok {index : Nat} {front : Bytes} :
    parseFrom index front half cs = .ok bytes ↔
      bytes.length = 20 ∧ ∃ back, bytes = front ++ back ∧ Completes half (Hex.solid cs) back := by
  fun_induction parseFrom index front half cs with
  | case1 index front half whole =>
    obtain ⟨none, size⟩ := whole
    constructor
    · intro read
      cases read
      refine ⟨size, [], (List.append_nil _).symm, completes_nil_iff.2 ⟨?_, rfl⟩⟩
      exact Option.isNone_iff_eq_none.1 none
    · rintro ⟨-, back, rfl, completes⟩
      obtain ⟨-, rfl⟩ := completes_nil_iff.1 completes
      rw [List.append_nil]
  | case2 index front half short =>
    constructor
    · intro read
      cases read
    · rintro ⟨size, back, rfl, completes⟩
      obtain ⟨rfl, rfl⟩ := completes_nil_iff.1 completes
      rw [List.append_nil] at size
      exact absurd ⟨rfl, size⟩ short
  | case3 index front half c cs blank ih => rw [ih, Hex.solid_cons_of_blank blank]
  | case4 index front half c cs visible full =>
    rw [Hex.solid_cons_of_visible visible]
    constructor
    · intro read
      cases read
    · rintro ⟨size, back, rfl, completes⟩
      have more := List.length_pos_iff.2 completes.exists_digit.1
      rw [List.length_append] at size
      omega
  | case5 index front half c cs visible room other =>
    rw [Hex.solid_cons_of_visible visible]
    constructor
    · intro read
      cases read
    · rintro ⟨-, back, -, completes⟩
      obtain ⟨-, d, digit⟩ := completes.exists_digit
      cases other.symm.trans digit
  | case6 index front c cs visible room d digit ih =>
    rw [ih, Hex.solid_cons_of_visible visible]
    simp only [completes_none_cons_iff digit]
  | case7 index front c cs visible room d h digit ih =>
    rw [ih, Hex.solid_cons_of_visible visible]
    simp only [completes_some_cons_iff digit]
    constructor
    · rintro ⟨size, back, whole, completes⟩
      rw [List.append_assoc] at whole
      exact ⟨size, _, whole, back, rfl, completes⟩
    · rintro ⟨size, _, whole, back, rfl, completes⟩
      refine ⟨size, back, ?_, completes⟩
      rw [List.append_assoc]
      exact whole

theorem parse_eq_ok {s : String} {a : Address} :
    parse s = .ok a ↔
      Hex.IsTyped s a.bytes ∨ Hex.IsMarkedAgain s a.bytes ∨ Hex.IsSpaced s a.bytes := by
  rw [← Hex.spells_solid_iff]
  unfold parse
  rw [Result.map_eq_ok]
  constructor
  · rintro ⟨bytes, read, rfl⟩
    obtain ⟨size, back, rfl, completes⟩ := parseFrom_eq_ok.1 read
    cases completes with
    | whole spelled => rwa [bytes_ofBytes size]
  · intro spelled
    refine ⟨a.bytes, parseFrom_eq_ok.2 ⟨a.length_bytes, a.bytes, ?_, .whole spelled⟩, ?_⟩
    · rw [List.nil_append]
    · rw [ofBytes_bytes]

end Address

/-- Which texts are read as a selector or as an address, and as which. Eight digits, or forty, behind
one mark at most are read as the bytes they spell. So are texts that are not typed as they are
meant to be, namely digits behind two marks or more, and in an address digits with blanks: a typed
text turns into one of these behind two more marks, or in front of a blank. No other text is
read. -/
theorem identifiers_exact (s : String) :
    (∀ f : Selector,
      Selector.parse s = .ok f ↔ Hex.IsTyped s f.bytes ∨ Hex.IsMarkedAgain s f.bytes) ∧
    (∀ a : Address, Address.parse s = .ok a ↔
      Hex.IsTyped s a.bytes ∨ Hex.IsMarkedAgain s a.bytes ∨ Hex.IsSpaced s a.bytes) ∧
    (∀ bytes other : Bytes, Hex.IsMarkedAgain s bytes ∨ Hex.IsSpaced s bytes →
      ¬ Hex.IsTyped s other) ∧
    ∀ bytes : Bytes, Hex.IsTyped s bytes →
      Hex.IsMarkedAgain ("0x" ++ ("0x" ++ s)) bytes ∧ Hex.IsSpaced (s ++ " ") bytes := by
  refine ⟨?_, ?_, fun bytes other => Hex.not_isTyped, fun bytes typed => ⟨?_, ?_⟩⟩
  · intro f
    exact Selector.parse_eq_ok
  · intro a
    exact Address.parse_eq_ok
  · exact typed.isMarkedAgain
  · exact typed.isSpaced

end NameRights
