/- NameRights/Proofs/HexText
   digest: The readers of hexadecimal text give back the bytes that were written; the strict one
   accepts nothing else than spelled bytes. -/

import NameRights.Hex

set_option autoImplicit false
set_option relaxedAutoImplicit false

namespace NameRights.Hex

/-- Characters that spell bytes: two digits of either case for each byte, the high one first. -/
inductive Spells : List Char → Bytes → Prop
  | nil : Spells [] []
  | cons {hi lo : Char} {h l : Nat} {cs : List Char} {bytes : Bytes} (high : digit? hi = some h)
      (low : digit? lo = some l) (rest : Spells cs bytes) :
      Spells (hi :: lo :: cs) (UInt8.ofNat (h * 16 + l) :: bytes)

private theorem digit?_digit {n : Nat} (small : n < 16) : digit? (digit n) = some n := by
  have all : ∀ k < 16, digit? (digit k) = some k := by decide
  exact all n small

private theorem pairs_digits (index : Nat) (bytes : Bytes) :
    pairs index (digits bytes) = .ok bytes := by
  induction bytes generalizing index with
  | nil => rfl
  | cons b bytes ih =>
    have high : b.toNat / 16 < 16 := by
      have := b.toNat_lt
      omega
    have low : b.toNat % 16 < 16 := Nat.mod_lt _ (by decide)
    have value : b.toNat / 16 * 16 + b.toNat % 16 = b.toNat := by omega
    change pairs index (digit (b.toNat / 16) :: digit (b.toNat % 16) :: digits bytes) = _
    simp only [pairs, digit?_digit high, digit?_digit low, ih, value, UInt8.ofNat_toNat]

theorem length_digits (bytes : Bytes) : (digits bytes).length = 2 * bytes.length := by
  induction bytes with
  | nil => rfl
  | cons b bytes ih =>
    change (digits bytes).length + 1 + 1 = _
    rw [ih, List.length_cons]
    omega

theorem decode_digits (bytes : Bytes) : decode (digits bytes) = .ok bytes := by
  have even : ¬ (digits bytes).length % 2 = 1 := by
    rw [length_digits]
    omega
  rw [decode, if_neg even, pairs_digits]

theorem Spells.length_eq {cs : List Char} {bytes : Bytes} (spelled : Spells cs bytes) :
    cs.length = 2 * bytes.length := by
  induction spelled with
  | nil => rfl
  | cons high low rest ih =>
    simp only [List.length_cons, ih]
    omega

theorem pairs_eq_ok {index : Nat} {cs : List Char} {bytes : Bytes} :
    pairs index cs = .ok bytes ↔ Spells cs bytes := by
  fun_induction pairs index cs generalizing bytes with
  | case1 index =>
    constructor
    · intro read
      cases read
      exact .nil
    · intro spelled
      cases spelled
      rfl
  | case2 index c =>
    constructor
    · intro read
      cases read
    · intro spelled
      cases spelled
  | case3 index hi lo rest broken =>
    constructor
    · intro read
      cases read
    · intro spelled
      cases spelled with
      | cons high low rest => cases broken.symm.trans high
  | case4 index hi lo rest h broken high =>
    constructor
    · intro read
      cases read
    · intro spelled
      cases spelled with
      | cons high low rest => cases broken.symm.trans low
  | case5 index hi lo rest h l low high bytes' read ih =>
    rw [Except.ok.injEq]
    constructor
    · rintro rfl
      exact .cons high low (ih.1 read)
    · intro spelled
      cases spelled with
      | cons high' low' rest' =>
        cases high.symm.trans high'
        cases low.symm.trans low'
        rw [Except.ok.inj (read.symm.trans (ih.2 rest'))]
  | case6 index hi lo rest h l low high fault read ih =>
    constructor
    · intro read
      cases read
    · intro spelled
      cases spelled with
      | cons high' low' rest' => cases read.symm.trans (ih.2 rest')

/-- The strict reader accepts what spells bytes and nothing else. -/
theorem decode_eq_ok {cs : List Char} {bytes : Bytes} :
    decode cs = .ok bytes ↔ Spells cs bytes := by
  unfold decode
  split
  · rename_i odd
    constructor
    · intro read
      cases read
    · intro spelled
      have even := spelled.length_eq
      omega
  · exact pairs_eq_ok

theorem spells_digits (bytes : Bytes) : Spells (digits bytes) bytes :=
  decode_eq_ok.1 (decode_digits bytes)

theorem isBlank_of_digit {c : Char} {d : Nat} (read : digit? c = some d) : isBlank c = false := by
  cases blank : isBlank c with
  | false => rfl
  | true =>
    simp only [isBlank, Bool.or_eq_true, beq_iff_eq] at blank
    rcases blank with ((rfl | rfl) | rfl) | rfl <;> cases read

/-- The lenient reader reads digits two by two, as the strict one does. -/
theorem lenientFrom_spelled {cs : List Char} {bytes : Bytes} (spelled : Spells cs bytes)
    (index : Nat) : lenientFrom index none cs = .ok bytes := by
  induction spelled generalizing index with
  | nil => rfl
  | cons high low rest ih =>
    simp only [lenientFrom, isBlank_of_digit high, isBlank_of_digit low, Bool.false_eq_true,
      if_false, high, low, ih, Except.map]

theorem lenient_digits (bytes : Bytes) : lenient 0 (digits bytes) = .ok bytes := by
  have even : ¬ (digits bytes).length % 2 = 1 := by
    rw [length_digits]
    omega
  rw [lenient, if_neg even, lenientFrom_spelled (spells_digits bytes)]

theorem text_injective {b c : Bytes} (same : text b = text c) : b = c := by
  have lists := congrArg String.toList same
  simp only [text, String.toList_ofList, List.cons.injEq, true_and] at lists
  have read := (decode_digits b).symm.trans ((congrArg decode lists).trans (decode_digits c))
  exact Except.ok.inj read

end NameRights.Hex
