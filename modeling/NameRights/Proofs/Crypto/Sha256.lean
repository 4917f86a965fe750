/- NameRights/Proofs/Crypto/Sha256
   digest: The hash on lists of words, a form in which codes are worked out. -/

import NameRights.Crypto.Sha256

set_option autoImplicit false
set_option relaxedAutoImplicit false

namespace NameRights.Sha256

/-- The word that a schedule takes up behind a window of its words. -/
def following (window : List UInt32) : UInt32 :=
  let x := window.getD 1 0
  let y := window.getD 14 0
  let low := rotate x 7 ^^^ rotate x 18 ^^^ (x >>> 3)
  let high := rotate y 17 ^^^ rotate y 19 ^^^ (y >>> 10)
  window.getD 0 0 + low + window.getD 9 0 + high

private def extend : Nat → List UInt32 → List UInt32
  | 0, window => window
  | n + 1, window =>
    match window ++ [following window] with
    | [] => []
    | first :: moved => first :: extend n moved

private theorem exists_moved (window : List UInt32) : ∃ first moved,
    window ++ [following window] = first :: moved ∧
      ∀ n, extend (n + 1) window = first :: extend n moved := by
  obtain ⟨first, moved, longer⟩ : ∃ first moved, window ++ [following window] = first :: moved :=
    List.exists_cons_of_ne_nil (List.append_ne_nil_of_right_ne_nil _ (List.cons_ne_nil _ _))
  refine ⟨first, moved, longer, fun n => ?_⟩
  rw [extend, longer]

private theorem extend_succ (n : Nat) (window : List UInt32) :
    extend (n + 1) window = extend n window ++ [following ((extend n window).drop n)] := by
  induction n generalizing window with
  | zero =>
    obtain ⟨first, moved, longer, moves⟩ := exists_moved window
    rw [moves, extend, extend, List.drop_zero, longer]
  | succ n ih =>
    obtain ⟨first, moved, -, moves⟩ := exists_moved window
    rw [moves, moves, ih, List.cons_append, List.drop_succ_cons]

private theorem getD_eq_getD_drop (w : Array UInt32) (n k : Nat) :
    w.getD (n + k) 0 = (w.toList.drop n).getD k 0 := by
  rw [Array.getD_eq_getD_getElem?, List.getD_eq_getElem?_getD, List.getElem?_drop,
    Array.getElem?_toList]

private theorem toList_schedule (block : Array UInt32) :
    (schedule block).toList = extend 48 block.toList := by
  unfold schedule
  generalize 48 = count
  induction count with
  | zero => rfl
  | succ n ih =>
    rw [Nat.fold_succ]
    simp only [Array.toList_push, getD_eq_getD_drop _ n, ih, extend_succ]
    have here (w : Array UInt32) : w.getD n 0 = (w.toList.drop n).getD 0 0 :=
      getD_eq_getD_drop w n 0
    simp only [here, ih]
    rfl

private def rounds : List UInt32 → List UInt32 → State → State
  | [], _, s => s
  | constant :: constants, words, s => rounds constants words.tail (round s constant (words.headD 0))

private theorem fold_succ_front {α : Type} (step : Nat → α → α) (n : Nat) (a : α) :
    Nat.fold (n + 1) (fun i _ a => step i a) a =
      Nat.fold n (fun i _ a => step (i + 1) a) (step 0 a) := by
  induction n with
  | zero => rfl
  | succ n ih => rw [Nat.fold_succ, ih, Nat.fold_succ]

private theorem fold_round (constants words : List UInt32) (s : State) :
    Nat.fold constants.length (fun i _ t => round t (constants.getD i 0) (words.getD i 0)) s =
      rounds constants words s := by
  induction constants generalizing words s with
  | nil => rfl
  | cons constant constants ih =>
    rw [List.length_cons,
      fold_succ_front fun i t => round t ((constant :: constants).getD i 0) (words.getD i 0)]
    cases words with
    | nil => exact ih [] _
    | cons word words => exact ih words _

def take (s : State) (block : List UInt32) : State :=
  let t := rounds constants.toList (extend 48 block) s
  ⟨s.a + t.a, s.b + t.b, s.c + t.c, s.d + t.d, s.e + t.e, s.f + t.f, s.g + t.g, s.h + t.h⟩

private theorem compress_eq (s : State) (block : Array UInt32) :
    compress s block = take s block.toList := by
  have folded : Nat.fold 64
      (fun i _ t => round t (constants.getD i 0) ((schedule block).getD i 0)) s =
      rounds constants.toList (extend 48 block.toList) s := by
    rw [← toList_schedule, ← fold_round]
    simp only [Array.getD_eq_getD_getElem?, List.getD_eq_getElem?_getD, Array.getElem?_toList]
    rfl
  unfold compress
  simp only [folded]
  rfl

/-- The digest of a message whose first bytes are already in the chain, worked out on lists. -/
def conclude (s : State) (absorbed : Nat) (rest : Bytes) : Bytes :=
  (((pad (absorbed + rest.length) rest).chunks 64).foldl
    (fun s block => take s (words block).toList) s).bytes

private theorem finish_eq (s : State) (absorbed : Nat) (rest : Bytes) :
    finish s absorbed rest = conclude s absorbed rest := by
  simp only [finish, compress_eq, conclude]

end NameRights.Sha256

namespace NameRights.Hmac

open Sha256

def conclude (key message : Bytes) : Bytes :=
  let inner := take initial (words (masked 0x36 key)).toList
  let outer := take initial (words (masked 0x5c key)).toList
  Sha256.conclude outer 64 (Sha256.conclude inner 64 message)

theorem code_eq : code = conclude := by
  funext key message
  rw [code, Key.code, finish_eq, finish_eq, Key.ofBytes, compress_eq, compress_eq, conclude]

end NameRights.Hmac
