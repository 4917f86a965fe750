/- NameRights/Proofs/Contract/Overload
   digest: Which of the functions of a name a contract calls with given arguments. -/

import Mathlib.Data.List.Nodup
import NameRights.Contract.Call
import NameRights.Proofs.Abi.Typing

set_option autoImplicit false
set_option relaxedAutoImplicit false

namespace NameRights

open Abi

/-- What tells the functions of a contract apart: name and number of inputs. -/
def Abi.Function.key (f : Function) : String × Nat := (f.name, f.inputs.length)

namespace Contract

theorem distinct_keys (c : Contract) : (c.interface.functions.map Function.key).Nodup := by
  cases c <;> decide +kernel

private theorem distinct_signatures (c : Contract) :
    (c.interface.functions.map Function.signature).Nodup := by
  cases c <;> decide +kernel

theorem eq_of_signature {c : Contract} {f g : Function} (first : f ∈ c.interface.functions)
    (second : g ∈ c.interface.functions) (same : f.signature = g.signature) : f = g :=
  List.inj_on_of_nodup_map c.distinct_signatures first second same

variable {values : List Value} {f : Function}

private theorem firstFitting_eq {fs : List Function} (declared : f ∈ fs)
    (distinct : (fs.map Function.key).Nodup) (named : ∀ g ∈ fs, g.name = f.name)
    (belong : Value.ListBelongs values f.kinds) : firstFitting values fs = .ok (some f) := by
  induction fs with
  | nil => cases declared
  | cons g fs ih =>
    rw [List.map_cons, List.nodup_cons] at distinct
    rcases List.mem_cons.1 declared with rfl | behind
    · simp only [firstFitting, Value.listFits_of_belong belong, Result.ok_bind, if_true]
    -- a function of the same name in front takes another number of inputs, so it is passed over
    · have other : g.inputs.length ≠ f.inputs.length := by
        intro same
        refine distinct.1 (List.mem_map.2 ⟨f, behind, ?_⟩)
        rw [Function.key, Function.key, named g (List.mem_cons_self ..), same]
      have short : values.length ≠ g.kinds.length := by
        rw [belong.length_eq, Function.kinds, Function.kinds, List.length_map, List.length_map]
        exact other.symm
      simp only [firstFitting, Value.listFits, if_neg short, Result.ok_bind, Bool.false_eq_true,
        if_false]
      exact ih behind distinct.2 fun h found => named h (List.mem_cons_of_mem _ found)

theorem function_eq {c : Contract} (declared : f ∈ c.interface.functions)
    (belong : Value.ListBelongs values f.kinds) : c.function f.name values = .ok f := by
  have listed : f ∈ c.interface.overloads f.name := List.mem_filter.2 ⟨declared, by simp⟩
  have distinct : ((c.interface.overloads f.name).map Function.key).Nodup :=
    c.distinct_keys.sublist (List.filter_sublist.map _)
  have named : ∀ g ∈ c.interface.overloads f.name, g.name = f.name := fun g found => by
    simpa using (List.mem_filter.1 found).2
  have fitting := firstFitting_eq listed distinct named belong
  unfold function
  split
  · rename_i none
    rw [none] at listed
    cases listed
  · rw [fitting]

end Contract

end NameRights
