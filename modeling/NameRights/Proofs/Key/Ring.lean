/- NameRights/Proofs/Key/Ring
   digest: A ring of keys ascends in its addresses, and what it gives for them is all of it. -/

import Mathlib.Data.List.Sort
import NameRights.Proofs.Key.Listing

set_option autoImplicit false
set_option relaxedAutoImplicit false

namespace NameRights

private theorem Address.eq_of_toNat {a b : Address} (same : a.value.toNat = b.value.toNat) :
    a = b := by
  cases a
  cases b
  exact congrArg mk (BitVec.eq_of_toNat_eq same)

namespace KeyRing

/-- The addresses ascend, so that none has two paths. -/
def IsAscending (ring : KeyRing) : Prop :=
  ring.Pairwise fun x y => x.1.value.toNat < y.1.value.toNat

instance (ring : KeyRing) : Decidable ring.IsAscending :=
  inferInstanceAs (Decidable (ring.Pairwise _))

variable {ring other : KeyRing} {a : Address} {path : String}

private theorem mem_insert {e : Address × String} (listed : e ∈ insert a path ring) :
    e = (a, path) ∨ e ∈ ring := by
  induction ring with
  | nil => exact Or.inl (List.mem_singleton.1 listed)
  | cons first ring ih =>
    obtain ⟨b, p⟩ := first
    rw [insert] at listed
    split at listed
    · rcases List.mem_cons.1 listed with rfl | later
      · exact Or.inl rfl
      · exact Or.inr (List.mem_cons_of_mem _ later)
    · split at listed
      · exact List.mem_cons.1 listed
      · rcases List.mem_cons.1 listed with rfl | later
        · exact Or.inr List.mem_cons_self
        · exact (ih later).imp_right (List.mem_cons_of_mem _)

private theorem IsAscending.insert (ascending : ring.IsAscending) (a : Address) (path : String) :
    IsAscending (KeyRing.insert a path ring) := by
  induction ring with
  | nil => exact List.pairwise_singleton _ _
  | cons first ring ih =>
    obtain ⟨b, p⟩ := first
    obtain ⟨below, rest⟩ := List.pairwise_cons.1 ascending
    rw [KeyRing.insert]
    by_cases same : b = a
    · subst same
      rw [if_pos rfl]
      exact List.pairwise_cons.2 ⟨below, rest⟩
    · rw [if_neg same]
      split
      · rename_i before
        have before : a.value.toNat ≤ b.value.toNat := of_decide_eq_true before
        have apart : a.value.toNat ≠ b.value.toNat :=
          fun equal => same (Address.eq_of_toNat equal.symm)
        refine List.pairwise_cons.2 ⟨?_, ascending⟩
        intro e listed
        rcases List.mem_cons.1 listed with rfl | later
        · show a.value.toNat < b.value.toNat
          omega
        · exact Nat.lt_of_le_of_lt before (below e later)
      · rename_i behind
        have behind : ¬ a.value.toNat ≤ b.value.toNat :=
          of_decide_eq_false (eq_false_of_ne_true behind)
        refine List.pairwise_cons.2 ⟨?_, ih rest⟩
        intro e listed
        rcases mem_insert listed with rfl | later
        · show b.value.toNat < a.value.toNat
          omega
        · exact below e later

theorem IsAscending.find?_eq_some (ascending : ring.IsAscending) :
    ring.find? a = some path ↔ (a, path) ∈ ring := by
  induction ring with
  | nil => simp [find?]
  | cons first ring ih =>
    obtain ⟨b, p⟩ := first
    obtain ⟨below, rest⟩ := List.pairwise_cons.1 ascending
    rw [find?_cons, List.mem_cons, Prod.mk.injEq]
    by_cases same : a = b
    · subst same
      have once : (a, path) ∉ ring := fun later => Nat.lt_irrefl _ (below (a, path) later)
      simp only [if_true, Option.some.injEq, true_and, once, or_false]
      exact eq_comm
    · rw [if_neg same, ih rest]
      simp only [same, false_and, false_or]

private theorem eq_of_mem_iff {α : Type} (measure : α → Nat) {xs ys : List α}
    (left : xs.Pairwise fun x y => measure x < measure y)
    (right : ys.Pairwise fun x y => measure x < measure y) (members : ∀ x, x ∈ xs ↔ x ∈ ys) :
    xs = ys := by
  have : Std.Irrefl fun x y => measure x < measure y := ⟨fun x => Nat.lt_irrefl (measure x)⟩
  have : Std.Antisymm fun x y => measure x < measure y :=
    ⟨fun _ _ below above => absurd below (Nat.lt_asymm above)⟩
  exact left.eq_of_mem_iff right members

/-- Two ascending rings that give the same for every address are the same. -/
theorem IsAscending.eq_of_find? (left : ring.IsAscending) (right : other.IsAscending)
    (same : ∀ a, ring.find? a = other.find? a) : ring = other := by
  refine eq_of_mem_iff (fun e : Address × String => e.1.value.toNat) left right ?_
  intro e
  rw [← left.find?_eq_some, ← right.find?_eq_some, same]

def addresses (ring : KeyRing) : List Address := ring.map Prod.fst

theorem IsAscending.mem_addresses (ascending : ring.IsAscending) :
    a ∈ ring.addresses ↔ ∃ path, ring.find? a = some path := by
  simp only [ascending.find?_eq_some, addresses, List.mem_map, Prod.exists, exists_and_right,
    exists_eq_right]

/-- Two ascending rings for the same addresses have them in the same order. -/
theorem IsAscending.addresses_eq (left : ring.IsAscending) (right : other.IsAscending)
    (members : ∀ a, a ∈ ring.addresses ↔ a ∈ other.addresses) :
    ring.addresses = other.addresses :=
  eq_of_mem_iff (fun a : Address => a.value.toNat) (List.pairwise_map.2 left)
    (List.pairwise_map.2 right) members

end KeyRing

namespace KeyDirectory

private theorem isAscending_collect {dir : KeyDirectory} {entries : List (String × Entry)}
    {ring gathered : KeyRing} (collected : dir.collect entries ring = .ok gathered)
    (ascending : ring.IsAscending) : gathered.IsAscending := by
  induction entries generalizing ring with
  | nil =>
    cases collected
    exact ascending
  | cons e entries ih =>
    obtain ⟨name, entry⟩ := e
    simp only [collect] at collected
    split at collected
    · exact ih collected ascending
    · split at collected
      · cases collected
      · exact ih collected (ascending.insert _ _)

theorem isAscending_list {dir : KeyDirectory} {ring : KeyRing} (listed : dir.list = .ok ring) :
    ring.IsAscending := by
  unfold list at listed
  split at listed
  · cases listed
  · split at listed
    · rename_i collected
      cases listed
      exact isAscending_collect collected List.Pairwise.nil
    · cases listed

end KeyDirectory

end NameRights
