/- NameRights/Proofs/Text/Utf8
   digest: A text is read back from its UTF-8 bytes, and the strict reader accepts nothing else. -/

import NameRights.Text.Utf8

set_option autoImplicit false
set_option relaxedAutoImplicit false

namespace NameRights.Text

variable {b₀ b₁ b₂ b₃ : UInt8} {r : Bytes}

private theorem units_one (small : b₀ < 0x80) :
    units (b₀ :: r) = some (Char.ofNat b₀.toNat) :: units r := by
  cases r with
  | nil =>
    rw [units.eq_def]
    simp only [if_pos small]
    rw [units.eq_def]
  | cons b r =>
    rw [units.eq_def]
    simp only [if_pos small]

private theorem units_two (large : ¬ b₀ < 0x80) (pair : isPair b₀ b₁ = true) :
    units (b₀ :: b₁ :: r) = some (Char.ofNat (b₀.toNat % 32 * 64 + payload b₁)) :: units r := by
  rw [units.eq_def]
  simp only [if_neg large, if_pos pair]

private theorem units_three (large : ¬ b₀ < 0x80) (pair : ¬ isPair b₀ b₁ = true)
    (long : startsLong b₀ b₁ = true) (third : isContinuation b₂ = true) (short : b₀ < 0xF0) :
    units (b₀ :: b₁ :: b₂ :: r) =
      some (Char.ofNat ((b₀.toNat % 16 * 64 + payload b₁) * 64 + payload b₂)) :: units r := by
  rw [units.eq_def]
  simp only [if_neg large, if_neg pair, if_pos long, if_pos third, if_pos short]

private theorem units_four (large : ¬ b₀ < 0x80) (pair : ¬ isPair b₀ b₁ = true)
    (long : startsLong b₀ b₁ = true) (third : isContinuation b₂ = true) (wide : ¬ b₀ < 0xF0)
    (fourth : isContinuation b₃ = true) :
    units (b₀ :: b₁ :: b₂ :: b₃ :: r) =
      some (Char.ofNat (((b₀.toNat % 8 * 64 + payload b₁) * 64 + payload b₂) * 64 + payload b₃)) ::
        units r := by
  rw [units.eq_def]
  simp only [if_neg large, if_neg pair, if_pos long, if_pos third, if_neg wide, if_pos fourth]

private theorem toNat_byte {n : Nat} (small : n < 256) : (UInt8.ofNat n).toNat = n := by
  rw [UInt8.toNat_ofNat']
  omega

private theorem isAscii_iff (b : UInt8) : b < 0x80 ↔ b.toNat < 128 := UInt8.lt_iff_toNat_lt

private theorem isNarrow_iff (b : UInt8) : b < 0xF0 ↔ b.toNat < 240 := UInt8.lt_iff_toNat_lt

private theorem isContinuation_iff (b : UInt8) :
    isContinuation b = true ↔ 128 ≤ b.toNat ∧ b.toNat ≤ 191 := by
  simp [isContinuation, UInt8.le_iff_toNat_le]

private theorem isPair_iff (b c : UInt8) :
    isPair b c = true ↔ 194 ≤ b.toNat ∧ b.toNat ≤ 223 ∧ 128 ≤ c.toNat ∧ c.toNat ≤ 191 := by
  simp [isPair, isContinuation, UInt8.le_iff_toNat_le, and_assoc]

/-- The second byte of a long character continues it above the overlong forms, below the
surrogates and below the end of the code points. -/
private theorem startsLong_of {b c : UInt8} (low : 224 ≤ b.toNat) (high : b.toNat ≤ 244)
    (next : 128 ≤ c.toNat) (last : c.toNat ≤ 191) (overlong : b.toNat = 224 → 160 ≤ c.toNat)
    (surrogate : b.toNat = 237 → c.toNat ≤ 159) (overlong' : b.toNat = 240 → 144 ≤ c.toNat)
    (beyond : b.toNat = 244 → c.toNat ≤ 143) : startsLong b c = true := by
  simp only [startsLong, isContinuation, beq_iff_eq, Bool.and_eq_true, decide_eq_true_eq,
    UInt8.le_iff_toNat_le, ← UInt8.toNat_inj, UInt8.reduceToNat]
  grind

private theorem units_ascii {v : Nat} (high : v ≤ 0x7F) :
    units (UInt8.ofNat v :: r) = some (Char.ofNat v) :: units r := by
  have first : (UInt8.ofNat v).toNat = v := toNat_byte (by omega)
  have small : UInt8.ofNat v < 0x80 := by
    rw [isAscii_iff, first]
    omega
  rw [units_one small, first]

private theorem units_pair {v : Nat} (low : 0x7F < v) (high : v ≤ 0x7FF) :
    units (UInt8.ofNat (v / 64 % 32 + 192) :: UInt8.ofNat (v % 64 + 128) :: r) =
      some (Char.ofNat v) :: units r := by
  have first : (UInt8.ofNat (v / 64 % 32 + 192)).toNat = v / 64 % 32 + 192 := toNat_byte (by omega)
  have second : (UInt8.ofNat (v % 64 + 128)).toNat = v % 64 + 128 := toNat_byte (by omega)
  have large : ¬ UInt8.ofNat (v / 64 % 32 + 192) < 0x80 := by
    rw [isAscii_iff, first]
    omega
  have pair : isPair (UInt8.ofNat (v / 64 % 32 + 192)) (UInt8.ofNat (v % 64 + 128)) = true := by
    rw [isPair_iff, first, second]
    omega
  have value : (v / 64 % 32 + 192) % 32 * 64 + (v % 64 + 128) % 64 = v := by omega
  rw [units_two large pair, payload, first, second, value]

private theorem units_triple {v : Nat} (low : 0x7FF < v) (high : v ≤ 0xFFFF)
    (whole : v < 0xD800 ∨ 0xDFFF < v) :
    units (UInt8.ofNat (v / 4096 % 16 + 224) :: UInt8.ofNat (v / 64 % 64 + 128) ::
      UInt8.ofNat (v % 64 + 128) :: r) = some (Char.ofNat v) :: units r := by
  have first : (UInt8.ofNat (v / 4096 % 16 + 224)).toNat = v / 4096 % 16 + 224 :=
    toNat_byte (by omega)
  have second : (UInt8.ofNat (v / 64 % 64 + 128)).toNat = v / 64 % 64 + 128 := toNat_byte (by omega)
  have third : (UInt8.ofNat (v % 64 + 128)).toNat = v % 64 + 128 := toNat_byte (by omega)
  have large : ¬ UInt8.ofNat (v / 4096 % 16 + 224) < 0x80 := by
    rw [isAscii_iff, first]
    omega
  have pair : ¬ isPair (UInt8.ofNat (v / 4096 % 16 + 224)) (UInt8.ofNat (v / 64 % 64 + 128)) =
      true := by
    rw [isPair_iff, first]
    omega
  have long : startsLong (UInt8.ofNat (v / 4096 % 16 + 224)) (UInt8.ofNat (v / 64 % 64 + 128)) =
      true := by
    apply startsLong_of <;> omega
  have short : UInt8.ofNat (v / 4096 % 16 + 224) < 0xF0 := by
    rw [isNarrow_iff, first]
    omega
  have continued : isContinuation (UInt8.ofNat (v % 64 + 128)) = true := by
    rw [isContinuation_iff, third]
    omega
  have value : ((v / 4096 % 16 + 224) % 16 * 64 + (v / 64 % 64 + 128) % 64) * 64 +
      (v % 64 + 128) % 64 = v := by omega
  rw [units_three large pair long continued short, payload, payload, first, second, third, value]

private theorem units_quadruple {v : Nat} (low : 0xFFFF < v) (high : v < 0x110000) :
    units (UInt8.ofNat (v / 262144 % 8 + 240) :: UInt8.ofNat (v / 4096 % 64 + 128) ::
      UInt8.ofNat (v / 64 % 64 + 128) :: UInt8.ofNat (v % 64 + 128) :: r) =
      some (Char.ofNat v) :: units r := by
  have first : (UInt8.ofNat (v / 262144 % 8 + 240)).toNat = v / 262144 % 8 + 240 :=
    toNat_byte (by omega)
  have second : (UInt8.ofNat (v / 4096 % 64 + 128)).toNat = v / 4096 % 64 + 128 :=
    toNat_byte (by omega)
  have third : (UInt8.ofNat (v / 64 % 64 + 128)).toNat = v / 64 % 64 + 128 := toNat_byte (by omega)
  have fourth : (UInt8.ofNat (v % 64 + 128)).toNat = v % 64 + 128 := toNat_byte (by omega)
  have large : ¬ UInt8.ofNat (v / 262144 % 8 + 240) < 0x80 := by
    rw [isAscii_iff, first]
    omega
  have pair : ¬ isPair (UInt8.ofNat (v / 262144 % 8 + 240)) (UInt8.ofNat (v / 4096 % 64 + 128)) =
      true := by
    rw [isPair_iff, first]
    omega
  have long : startsLong (UInt8.ofNat (v / 262144 % 8 + 240)) (UInt8.ofNat (v / 4096 % 64 + 128)) =
      true := by
    apply startsLong_of <;> omega
  have wide : ¬ UInt8.ofNat (v / 262144 % 8 + 240) < 0xF0 := by
    rw [isNarrow_iff, first]
    omega
  have continued : isContinuation (UInt8.ofNat (v / 64 % 64 + 128)) = true := by
    rw [isContinuation_iff, third]
    omega
  have ended : isContinuation (UInt8.ofNat (v % 64 + 128)) = true := by
    rw [isContinuation_iff, fourth]
    omega
  have value : (((v / 262144 % 8 + 240) % 8 * 64 + (v / 4096 % 64 + 128) % 64) * 64 +
      (v / 64 % 64 + 128) % 64) * 64 + (v % 64 + 128) % 64 = v := by omega
  rw [units_four large pair long continued wide ended, payload, payload, payload, first, second,
    third, fourth, value]

private theorem units_utf8EncodeChar (c : Char) (r : Bytes) :
    units (String.utf8EncodeChar c ++ r) = some c :: units r := by
  have bounds : c.val.toNat < 0xD800 ∨ (0xDFFF < c.val.toNat ∧ c.val.toNat < 0x110000) := c.valid
  have whole : Char.ofNat c.val.toNat = c := Char.ofNat_toNat c
  unfold String.utf8EncodeChar
  simp only
  split
  · rename_i high
    rw [List.singleton_append, units_ascii high, whole]
  · rename_i low
    split
    · rename_i high
      simp only [List.cons_append, List.nil_append, units_pair (by omega) high, whole]
    · rename_i low'
      split
      · rename_i high
        simp only [List.cons_append, List.nil_append, units_triple (by omega) high (by omega),
          whole]
      · rename_i low''
        have low : 0xFFFF < c.val.toNat := by omega
        have high : c.val.toNat < 0x110000 := by omega
        simp only [List.cons_append, List.nil_append, units_quadruple low high, whole]

private theorem units_utf8 (s : String) : units (utf8 s) = s.toList.map some := by
  unfold utf8
  induction s.toList with
  | nil => rw [List.flatMap_nil, units.eq_def, List.map_nil]
  | cons c cs ih => rw [List.flatMap_cons, units_utf8EncodeChar, ih, List.map_cons]

theorem lossy_utf8 (s : String) : lossy (utf8 s) = s := by
  have read : (s.toList.map some).map (fun unit => unit.getD (Char.ofNat 0xFFFD)) = s.toList := by
    rw [List.map_map]
    exact List.map_id' _
  rw [lossy, units_utf8, read, String.ofList_toList]

private theorem bounds_of_startsLong {b c : UInt8} (long : startsLong b c = true) :
    (224 ≤ b.toNat ∧ b.toNat ≤ 244) ∧ (128 ≤ c.toNat ∧ c.toNat ≤ 191) ∧
      (b.toNat = 224 → 160 ≤ c.toNat) ∧ (b.toNat = 237 → c.toNat ≤ 159) ∧
      (b.toNat = 240 → 144 ≤ c.toNat) ∧ (b.toNat = 244 → c.toNat ≤ 143) := by
  simp only [startsLong, isContinuation, beq_iff_eq, Bool.and_eq_true, decide_eq_true_eq,
    UInt8.le_iff_toNat_le, ← UInt8.toNat_inj, UInt8.reduceToNat] at long
  repeat' split at long
  all_goals simp only [Bool.and_eq_true, decide_eq_true_eq, Bool.false_eq_true] at long <;> omega

private theorem toNat_val_ofNat {n : Nat} (valid : n < 0xD800 ∨ (0xDFFF < n ∧ n < 0x110000)) :
    (Char.ofNat n).val.toNat = n := by
  rw [Char.ofNat, dif_pos valid]
  rfl

private theorem ofNat_eq_of_toNat {b : UInt8} {n : Nat} (same : n = b.toNat) :
    UInt8.ofNat n = b := by
  rw [same, UInt8.ofNat_toNat]

private theorem utf8EncodeChar_one (small : b₀ < 0x80) :
    String.utf8EncodeChar (Char.ofNat b₀.toNat) = [b₀] := by
  rw [isAscii_iff] at small
  unfold String.utf8EncodeChar
  simp only [toNat_val_ofNat (n := b₀.toNat) (by omega)]
  rw [if_pos (by omega), UInt8.ofNat_toNat]

private theorem utf8EncodeChar_two (pair : isPair b₀ b₁ = true) :
    String.utf8EncodeChar (Char.ofNat (b₀.toNat % 32 * 64 + payload b₁)) = [b₀, b₁] := by
  rw [isPair_iff] at pair
  unfold String.utf8EncodeChar payload
  simp only [toNat_val_ofNat (n := b₀.toNat % 32 * 64 + b₁.toNat % 64) (by omega)]
  rw [if_neg (by omega), if_pos (by omega), ofNat_eq_of_toNat (b := b₀) (by omega),
    ofNat_eq_of_toNat (b := b₁) (by omega)]

private theorem utf8EncodeChar_three (long : startsLong b₀ b₁ = true)
    (third : isContinuation b₂ = true)
    (short : b₀ < 0xF0) :
    String.utf8EncodeChar (Char.ofNat ((b₀.toNat % 16 * 64 + payload b₁) * 64 + payload b₂)) =
      [b₀, b₁, b₂] := by
  have bounds := bounds_of_startsLong long
  rw [isContinuation_iff] at third
  rw [isNarrow_iff] at short
  unfold String.utf8EncodeChar payload
  simp only [toNat_val_ofNat
    (n := (b₀.toNat % 16 * 64 + b₁.toNat % 64) * 64 + b₂.toNat % 64) (by omega)]
  rw [if_neg (by omega), if_neg (by omega), if_pos (by omega),
    ofNat_eq_of_toNat (b := b₀) (by omega), ofNat_eq_of_toNat (b := b₁) (by omega),
    ofNat_eq_of_toNat (b := b₂) (by omega)]

private theorem utf8EncodeChar_four (long : startsLong b₀ b₁ = true)
    (third : isContinuation b₂ = true)
    (wide : ¬ b₀ < 0xF0) (fourth : isContinuation b₃ = true) :
    String.utf8EncodeChar (Char.ofNat
      (((b₀.toNat % 8 * 64 + payload b₁) * 64 + payload b₂) * 64 + payload b₃)) =
      [b₀, b₁, b₂, b₃] := by
  have bounds := bounds_of_startsLong long
  rw [isContinuation_iff] at third fourth
  rw [isNarrow_iff] at wide
  unfold String.utf8EncodeChar payload
  simp only [toNat_val_ofNat
    (n := ((b₀.toNat % 8 * 64 + b₁.toNat % 64) * 64 + b₂.toNat % 64) * 64 + b₃.toNat % 64)
    (by omega)]
  rw [if_neg (by omega), if_neg (by omega), if_neg (by omega),
    ofNat_eq_of_toNat (b := b₀) (by omega), ofNat_eq_of_toNat (b := b₁) (by omega),
    ofNat_eq_of_toNat (b := b₂) (by omega), ofNat_eq_of_toNat (b := b₃) (by omega)]

private theorem eq_of_units {bytes : Bytes} {cs : List Char} (read : units bytes = cs.map some) :
    bytes = cs.flatMap String.utf8EncodeChar := by
  fun_induction units bytes generalizing cs with
  | case1 =>
    rw [List.map_eq_nil_iff.1 read.symm, List.flatMap_nil]
  | case2 b₀ small =>
    obtain ⟨c, cs, rfl, same, rest⟩ := List.map_eq_cons_iff.1 read.symm
    cases same
    rw [List.map_eq_nil_iff.1 rest, List.flatMap_cons, utf8EncodeChar_one small, List.flatMap_nil,
      List.append_nil]
  | case4 b₀ b₁ r small ih =>
    obtain ⟨c, cs, rfl, same, rest⟩ := List.map_eq_cons_iff.1 read.symm
    cases same
    rw [List.flatMap_cons, utf8EncodeChar_one small, ← ih rest.symm, List.singleton_append]
  | case5 b₀ b₁ r large pair ih =>
    obtain ⟨c, cs, rfl, same, rest⟩ := List.map_eq_cons_iff.1 read.symm
    cases same
    rw [List.flatMap_cons, utf8EncodeChar_two pair, ← ih rest.symm]
    rfl
  | case7 b₀ b₁ large pair long b₂ r third short ih =>
    obtain ⟨c, cs, rfl, same, rest⟩ := List.map_eq_cons_iff.1 read.symm
    cases same
    rw [List.flatMap_cons, utf8EncodeChar_three long third short, ← ih rest.symm]
    rfl
  | case9 b₀ b₁ large pair long b₂ third wide b₃ r fourth ih =>
    obtain ⟨c, cs, rfl, same, rest⟩ := List.map_eq_cons_iff.1 read.symm
    cases same
    rw [List.flatMap_cons, utf8EncodeChar_four long third wide fourth, ← ih rest.symm]
    rfl
  | case3 | case6 | case8 | case10 | case11 | case12 =>
    -- a run of bytes that is no character
    obtain ⟨c, cs, rfl, broken, rest⟩ := List.map_eq_cons_iff.1 read.symm
    cases broken

private theorem mapM_id_eq_some {cs : List Char} {units : List (Option Char)} :
    units.mapM id = some cs ↔ units = cs.map some := by
  induction units generalizing cs with
  | nil => cases cs <;> simp
  | cons unit units ih =>
    rw [List.mapM_cons]
    cases unit with
    | none => cases cs <;> simp
    | some c =>
      cases cs with
      | nil => cases units.mapM id <;> simp
      | cons d cs =>
        simp only [id_eq, Option.bind_eq_bind, Option.bind_some, Option.bind_eq_some_iff, ih,
          Option.pure_def, Option.some.injEq, List.cons.injEq, List.map_cons]
        constructor
        · rintro ⟨_, rfl, rfl, rfl⟩
          exact ⟨rfl, rfl⟩
        · rintro ⟨rfl, rfl⟩
          exact ⟨cs, rfl, rfl, rfl⟩

/-- The strict reader accepts the UTF-8 bytes of texts and nothing else. -/
theorem ofUtf8?_eq_some_iff {bytes : Bytes} {s : String} :
    ofUtf8? bytes = some s ↔ bytes = utf8 s := by
  rw [ofUtf8?, Option.map_eq_some_iff]
  constructor
  · rintro ⟨cs, read, rfl⟩
    rw [utf8, String.toList_ofList]
    exact eq_of_units (mapM_id_eq_some.1 read)
  · rintro rfl
    exact ⟨s.toList, mapM_id_eq_some.2 (units_utf8 s), String.ofList_toList⟩

/-- The bytes of a text, each as the character of its number. -/
def octets (s : String) : List Char := (utf8 s).map fun b => Char.ofNat b.toNat

private theorem octets_ofList_cons (c : Char) (cs : List Char) :
    octets (String.ofList (c :: cs)) =
      (String.utf8EncodeChar c).map (fun b => Char.ofNat b.toNat) ++ octets (String.ofList cs) := by
  simp only [octets, utf8, String.toList_ofList, List.flatMap_cons, List.map_append]

private theorem octets_char (c : Char) :
    c.toNat < 128 ∧ (String.utf8EncodeChar c).map (fun b => Char.ofNat b.toNat) = [c] ∨
      128 ≤ c.toNat ∧ ∃ o ∈ (String.utf8EncodeChar c).map (fun b => Char.ofNat b.toNat),
        128 ≤ o.toNat := by
  have bounds : c.val.toNat < 0xD800 ∨ (0xDFFF < c.val.toNat ∧ c.val.toNat < 0x110000) := c.valid
  have lead {n : Nat} (low : 128 ≤ n) (high : n < 256) :
      128 ≤ (Char.ofNat (UInt8.ofNat n).toNat).toNat := by
    rw [toNat_byte high]
    exact Nat.le_trans low (Nat.le_of_eq (toNat_val_ofNat (Or.inl (by omega))).symm)
  by_cases small : c.toNat < 128
  · left
    have high : c.val.toNat ≤ 0x7F := Nat.le_of_lt_succ small
    refine ⟨small, ?_⟩
    unfold String.utf8EncodeChar
    have same : Char.ofNat c.val.toNat = c := Char.ofNat_toNat c
    simp only [if_pos high, List.map_singleton, toNat_byte (n := c.val.toNat) (by omega), same]
  · right
    have low : ¬ c.val.toNat ≤ 0x7F := fun high => small (Nat.lt_succ_of_le high)
    refine ⟨Nat.le_of_not_lt small, ?_⟩
    unfold String.utf8EncodeChar
    simp only [if_neg low]
    split
    · exact ⟨_, List.mem_cons_self, lead (by omega) (by omega)⟩
    · split
      · exact ⟨_, List.mem_cons_self, lead (by omega) (by omega)⟩
      · exact ⟨_, List.mem_cons_self, lead (by omega) (by omega)⟩

theorem octets_of_ascii {cs : List Char} (ascii : ∀ c ∈ cs, c.toNat < 128) :
    octets (String.ofList cs) = cs := by
  induction cs with
  | nil => rfl
  | cons c cs ih =>
    obtain ⟨small, rest⟩ := List.forall_mem_cons.1 ascii
    rcases octets_char c with ⟨-, same⟩ | ⟨large, -⟩
    · rw [octets_ofList_cons, same, ih rest, List.singleton_append]
    · omega

theorem eq_of_octets_ascii {cs : List Char}
    (ascii : ∀ o ∈ octets (String.ofList cs), o.toNat < 128) : octets (String.ofList cs) = cs := by
  induction cs with
  | nil => rfl
  | cons c cs ih =>
    rw [octets_ofList_cons] at ascii ⊢
    obtain ⟨first, rest⟩ := List.forall_mem_append.1 ascii
    rcases octets_char c with ⟨-, same⟩ | ⟨-, o, member, large⟩
    · rw [same, ih rest, List.singleton_append]
    · have small := first o member
      omega

end NameRights.Text
