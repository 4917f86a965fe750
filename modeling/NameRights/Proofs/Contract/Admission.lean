/- NameRights/Proofs/Contract/Admission
   digest: Which arguments a function of a contract is called with, and what becomes of the others. -/

import NameRights.Proofs.Abi.Padding
import NameRights.Proofs.Contract.Calldata
import NameRights.Proofs.Session.Asking

set_option autoImplicit false
set_option relaxedAutoImplicit false

namespace NameRights

namespace Abi

open Result Value

mutual

/-- Whether values of the type have byte strings of a fixed length. -/
def Kind.hasFixedBytes : Kind → Bool
  | fixedBytes _ => true
  | array item | fixedArray item _ => item.hasFixedBytes
  | tuple fields => Kind.anyFixedBytes fields
  | _ => false

private def Kind.anyFixedBytes : List Kind → Bool
  | [] => false
  | kind :: kinds => kind.hasFixedBytes || anyFixedBytes kinds

end

/-- Byte strings of a fixed length stand alone or in front of one address. -/
private def Kind.leadsBytes : List Kind → Bool
  | [fixedBytes _] | [fixedBytes _, address] => true
  | kinds => !Kind.anyFixedBytes kinds

mutual

private theorem written_of_plain (v : Value) (kind : Kind) (plain : kind.hasFixedBytes = false)
    (suits : v.Suits false kind) : v.Written := by
  cases v with
  | array items =>
    cases kind with
    | array kind => exact allWritten_of_plain items kind plain suits
    | _ => exact suits.elim
  | fixedArray items =>
    cases kind with
    | fixedArray kind size => exact allWritten_of_plain items kind plain suits.2
    | _ => exact suits.elim
  | tuple fields =>
    cases kind with
    | tuple kinds => exact listWritten_of_plain fields kinds plain suits
    | _ => exact suits.elim
  | fixedBytes b =>
    cases kind with
    | fixedBytes size => cases plain
    | _ => exact suits.elim
  | address | bytes | int | uint | bool | string => trivial

private theorem allWritten_of_plain (vs : List Value) (kind : Kind)
    (plain : kind.hasFixedBytes = false)
    (suit : AllSuit false vs kind) : AllWritten vs := by
  cases vs with
  | nil => trivial
  | cons v vs =>
    exact ⟨written_of_plain v kind plain suit.1, allWritten_of_plain vs kind plain suit.2⟩

private theorem listWritten_of_plain (vs : List Value) (kinds : List Kind)
    (plain : Kind.anyFixedBytes kinds = false) (suit : ListSuits false vs kinds) :
    AllWritten vs := by
  cases vs with
  | nil => trivial
  | cons v vs =>
    cases kinds with
    | nil => exact suit.elim
    | cons kind kinds =>
      simp only [Kind.anyFixedBytes, Bool.or_eq_false_iff] at plain
      exact ⟨written_of_plain v kind plain.1 suit.1, listWritten_of_plain vs kinds plain.2 suit.2⟩

end

private theorem decode_alone_nil {size : Nat} {vs : List Value} (some : 0 < size) :
    decode [.fixedBytes size] [] ≠ .ok vs := by
  have wanting : ¬ (size == 0) = true := by
    simp only [beq_iff_eq]
    omega
  simp [decode, Kind.isEmpty, wanting]

private theorem length_of_decode_led {size : Nat} {data : Bytes} {vs : List Value}
    (decoded : decode [.fixedBytes size, .address] data = .ok vs) : 64 ≤ data.length := by
  unfold decode at decoded
  split at decoded
  · cases decoded
  · obtain ⟨⟨read, next⟩, walked, -⟩ := map_eq_ok.1 decoded
    simp only [valuesAt, valueAt] at walked
    obtain ⟨⟨first, start⟩, front, walked⟩ := bind_eq_ok.1 walked
    obtain ⟨bytes, -, placed⟩ := bind_eq_ok.1 front
    cases placed
    obtain ⟨⟨others, rest⟩, behind, -⟩ := bind_eq_ok.1 walked
    obtain ⟨⟨second, rest⟩, behind, -⟩ := bind_eq_ok.1 behind
    obtain ⟨word, found, -⟩ := bind_eq_ok.1 behind
    obtain ⟨whole, stands⟩ := wordAt_eq_ok.1 found
    have inside := stands.le
    omega

private theorem not_decoded_of_unwritten {kinds : List Kind} {vs ws : List Value}
    (leads : Kind.leadsBytes kinds = true) (proper : Kind.allProper kinds = true)
    (suit : ListSuits false vs kinds) (unwritten : ¬ AllWritten vs) :
    decode kinds (encode vs) ≠ .ok ws := by
  unfold Kind.leadsBytes at leads
  split at leads
  · rename_i size
    match vs, suit with
    | [fixedBytes b], _ =>
      have empty : b = [] := by simpa [AllWritten, Written] using unwritten
      simp only [Kind.allProper, Kind.isProper, Bool.and_eq_true, decide_eq_true_eq] at proper
      rw [empty]
      exact decode_alone_nil proper.1.1
  · rename_i size
    match vs, suit with
    | [fixedBytes b, .address a], _ =>
      have empty : b = [] := by simpa [AllWritten, Written] using unwritten
      intro decoded
      have long := length_of_decode_led decoded
      -- the address alone takes up one word
      have short : (encode [fixedBytes b, .address a]).length = 32 := by
        simp [encode, parts, part, empty, length_joinParts_eq, headsLength, Part.headLength, tails,
          Bytes.padRight, Bytes.zeros]
      omega
  · have plain : Kind.anyFixedBytes kinds = false := by simpa using leads
    exact absurd (listWritten_of_plain vs kinds plain suit) unwritten

/-- The values are as many as the function has inputs, and each passes for its input. -/
def Function.Takes (f : Function) (values : List Value) : Prop :=
  values.length = f.kinds.length ∧ Value.ListSuits true values f.kinds

/-- The values are as many as the function has inputs, and their check comes to a tuple that is too
long. -/
def Function.Overrun (f : Function) (values : List Value) : Prop :=
  values.length = f.kinds.length ∧ Value.ListOverruns values f.kinds

end Abi

open Abi Result

namespace Client

variable {i : Invocation}

private theorem call_silent {α : Type} (failed : ∀ r, i.encode ≠ .ok r) (output : Output α)
    (address : Address) (options : CallOptions) (q : Question) :
    ¬ (call address ⟨i, output⟩ options).Asks q := by
  intro asks
  rcases (Session.asks_bind _ _ q).1 asks with asks | ⟨r, coded, -⟩
  · exact asks
  · exact failed r ((Session.yields_done _ r).1 coded)

private theorem transact_silent (failed : ∀ r, i.encode ≠ .ok r) (address : Address)
    (options : TransactOptions) (q : Question) : ¬ (transact address i options).Asks q := by
  intro asks
  rcases (Session.asks_bind _ _ q).1 asks with asks | ⟨r, coded, -⟩
  · exact asks
  · exact failed r ((Session.yields_done _ r).1 coded)

end Client

namespace Contract

private theorem leadsBytes_kinds {c : Contract} {f : Function}
    (declared : f ∈ c.interface.functions) :
    Kind.leadsBytes f.kinds = true := by
  have all : ∀ f ∈ c.interface.functions, Kind.leadsBytes f.kinds = true := by
    cases c <;> decide
  exact all f declared

variable {c : Contract} {name : String} {values : List Value} {f : Function} {fs : List Function}

private theorem firstFitting_none (others : ∀ g ∈ fs, g.kinds.length ≠ values.length) :
    firstFitting values fs = .ok none := by
  induction fs with
  | nil => rfl
  | cons g fs ih =>
    have other : values.length ≠ g.kinds.length := (others g (List.mem_cons_self ..)).symm
    have rest := ih fun h found => others h (List.mem_cons_of_mem _ found)
    simp only [firstFitting, Value.listFits, if_neg other, ok_bind, Bool.false_eq_true, if_false,
      rest]

private theorem firstFitting_of_arity (declared : f ∈ fs) (distinct : (fs.map Function.key).Nodup)
    (named : ∀ g ∈ fs, g.name = f.name) (arity : f.kinds.length = values.length) :
    firstFitting values fs =
      (Value.listFits values f.kinds >>= fun passed => .ok (if passed then some f else none)) := by
  induction fs with
  | nil => cases declared
  | cons g fs ih =>
    rw [List.map_cons, List.nodup_cons] at distinct
    have apart {h : Function} (found : h ∈ fs) : h.inputs.length ≠ g.inputs.length := by
      intro same
      refine distinct.1 (List.mem_map.2 ⟨h, found, ?_⟩)
      rw [Function.key, Function.key, named h (List.mem_cons_of_mem _ found),
        named g (List.mem_cons_self ..), same]
    simp only [Function.kinds, List.length_map] at arity
    rcases List.mem_cons.1 declared with rfl | behind
    · have others : firstFitting values fs = .ok none := by
        refine firstFitting_none fun h found => ?_
        rw [Function.kinds, List.length_map, ← arity]
        exact apart found
      rw [firstFitting]
      congr 1
      funext passed
      cases passed with
      | true => rfl
      | false => exact others
    · have other : values.length ≠ g.kinds.length := by
        rw [Function.kinds, List.length_map, ← arity]
        exact apart behind
      simp only [firstFitting, Value.listFits, if_neg other, ok_bind, Bool.false_eq_true, if_false]
      exact ih behind distinct.2 fun h found => named h (List.mem_cons_of_mem _ found)

private theorem eq_of_arity {g : Function} (first : f ∈ c.interface.overloads name)
    (second : g ∈ c.interface.overloads name) (same : f.kinds.length = g.kinds.length) : f = g := by
  obtain ⟨declared, named⟩ := List.mem_filter.1 first
  obtain ⟨alsoDeclared, alsoNamed⟩ := List.mem_filter.1 second
  refine List.inj_on_of_nodup_map c.distinct_keys declared alsoDeclared ?_
  simp only [Function.kinds, List.length_map] at same
  rw [beq_iff_eq] at named alsoNamed
  rw [Function.key, Function.key, named, alsoNamed, same]

private theorem encode_undeclared (none : c.interface.overloads name = []) :
    c.encode name values = .error (.abi (.invalidName name)) := by
  simp only [Contract.encode, function, none, bind, Outcome.bind]

private theorem encode_declared (some : c.interface.overloads name ≠ []) :
    c.encode name values =
      match firstFitting values (c.interface.overloads name) with
      | .error reason => .aborted reason
      | .ok none => .error (.unknownFunction name)
      | .ok (.some f) => .ok (f, f.encodeCall values) := by
  unfold Contract.encode function
  split
  · rename_i none
    exact absurd none some
  · cases firstFitting values (c.interface.overloads name) with
    | error reason => rfl
    | ok found => cases found <;> rfl

private theorem encode_of_arity (found : f ∈ c.interface.overloads name)
    (arity : values.length = f.kinds.length) :
    c.encode name values =
      match Value.listFits values f.kinds with
      | .error reason => .aborted reason
      | .ok false => .error (.unknownFunction name)
      | .ok true => .ok (f, f.encodeCall values) := by
  have distinct : ((c.interface.overloads name).map Function.key).Nodup :=
    c.distinct_keys.sublist (List.filter_sublist.map _)
  have named : ∀ g ∈ c.interface.overloads name, g.name = f.name := by
    intro g other
    have one := (List.mem_filter.1 found).2
    have two := (List.mem_filter.1 other).2
    rw [beq_iff_eq] at one two
    rw [one, two]
  have decides := firstFitting_of_arity found distinct named arity.symm
  rw [encode_declared (List.ne_nil_of_mem found), decides]
  cases Value.listFits values f.kinds with
  | error reason => rfl
  | ok passed => cases passed <;> rfl

/-- What a call of a name with some values comes to, given the functions of that name. -/
inductive Admission (fs : List Function) (name : String) (values : List Value) :
    Outcome ContractError (Function × Bytes) → Prop
  | undeclared (none : fs = []) : Admission fs name values (.error (.abi (.invalidName name)))
  | refused (some : fs ≠ []) (unfit : ∀ f ∈ fs, ¬ f.Takes values)
      (within : ∀ f ∈ fs, ¬ f.Overrun values) :
      Admission fs name values (.error (.unknownFunction name))
  | taken {f : Function} (found : f ∈ fs) (takes : f.Takes values)
      (only : ∀ g ∈ fs, g.Takes values → g = f) (within : ∀ g ∈ fs, ¬ g.Overrun values) :
      Admission fs name values (.ok (f, f.encodeCall values))
  | overrun {f : Function} (found : f ∈ fs) (exceeds : f.Overrun values)
      (unfit : ∀ g ∈ fs, ¬ g.Takes values) : Admission fs name values (.aborted .tupleTooLong)

private theorem admission (c : Contract) (name : String) (values : List Value) :
    Admission (c.interface.overloads name) name values (c.encode name values) := by
  by_cases none : c.interface.overloads name = []
  · rw [encode_undeclared none]
    exact .undeclared none
  by_cases some : ∃ f ∈ c.interface.overloads name, values.length = f.kinds.length
  · obtain ⟨f, found, arity⟩ := some
    -- every other function of the name takes another number of inputs
    have only {g : Function} (other : g ∈ c.interface.overloads name)
        (same : values.length = g.kinds.length) : g = f :=
      eq_of_arity other found (same.symm.trans arity)
    have verdict := Value.listFits_verdict values f.kinds
    rw [encode_of_arity found arity]
    generalize Value.listFits values f.kinds = check at verdict
    cases verdict with
    | pass suits within =>
      refine .taken found suits (fun g other takes => only other takes.1) ?_
      rintro g other exceeds
      obtain rfl := only other exceeds.1
      exact within exceeds
    | refuse unfit within =>
      refine .refused none ?_ ?_
      · rintro g other takes
        obtain rfl := only other takes.1
        exact unfit takes
      · rintro g other exceeds
        obtain rfl := only other exceeds.1
        exact within exceeds
    | overrun unfit exceeds =>
      refine .overrun found exceeds ?_
      rintro g other takes
      obtain rfl := only other takes.1
      exact unfit takes
  · have others : ∀ f ∈ c.interface.overloads name, f.kinds.length ≠ values.length :=
      fun f found same => some ⟨f, found, same.symm⟩
    rw [encode_declared none, firstFitting_none others]
    exact .refused none (fun f found takes => others f found takes.1.symm)
      fun f found exceeds => others f found exceeds.1.symm

namespace Admission

variable {result : Outcome ContractError (Function × Bytes)}

private theorem ok_iff (outcome : Admission fs name values result) (f : Function) (data : Bytes) :
    result = .ok (f, data) ↔ f ∈ fs ∧ f.Takes values ∧ data = f.encodeCall values := by
  cases outcome with
  | undeclared none => simp [none]
  | refused some unfit within =>
    refine iff_of_false (fun same => by cases same) ?_
    rintro ⟨found, takes, -⟩
    exact unfit f found takes
  | overrun found exceeds unfit =>
    refine iff_of_false (fun same => by cases same) ?_
    rintro ⟨found, takes, -⟩
    exact unfit f found takes
  | taken found takes only within =>
    constructor
    · intro same
      cases same
      exact ⟨found, takes, rfl⟩
    · rintro ⟨found, takes, rfl⟩
      rw [only f found takes]

private theorem error_iff (outcome : Admission fs name values result) (e : ContractError) :
    result = .error e ↔ (fs = [] ∧ e = .abi (.invalidName name)) ∨
      (fs ≠ [] ∧ e = .unknownFunction name ∧ ∀ f ∈ fs, ¬ f.Takes values ∧ ¬ f.Overrun values) := by
  cases outcome with
  | undeclared none => simp [none, eq_comm]
  | refused some unfit within =>
    have refused : ∀ f ∈ fs, ¬ f.Takes values ∧ ¬ f.Overrun values :=
      fun f found => ⟨unfit f found, within f found⟩
    constructor
    · intro same
      cases same
      exact Or.inr ⟨some, rfl, refused⟩
    · rintro (⟨none, -⟩ | ⟨-, rfl, -⟩)
      · exact absurd none some
      · rfl
  | taken found takes only within =>
    refine iff_of_false (fun same => by cases same) ?_
    rintro (⟨none, -⟩ | ⟨-, -, refused⟩)
    · exact absurd none (List.ne_nil_of_mem found)
    · exact (refused _ found).1 takes
  | overrun found exceeds unfit =>
    refine iff_of_false (fun same => by cases same) ?_
    rintro (⟨none, -⟩ | ⟨-, -, refused⟩)
    · exact absurd none (List.ne_nil_of_mem found)
    · exact (refused _ found).2 exceeds

private theorem aborted_iff (outcome : Admission fs name values result) (reason : Abort) :
    result = .aborted reason ↔ reason = .tupleTooLong ∧ ∃ f ∈ fs, f.Overrun values := by
  cases outcome with
  | undeclared none => simp [none]
  | overrun found exceeds unfit =>
    have some : ∃ f ∈ fs, f.Overrun values := ⟨_, found, exceeds⟩
    simp [some, eq_comm]
  | refused some unfit within | taken found takes only within =>
    refine iff_of_false (fun same => by cases same) ?_
    rintro ⟨-, f, found, exceeds⟩
    exact within f found exceeds

end Admission

/-- What is coded is read back, with its byte strings filled up, if its tuples have all their fields
and none of its byte strings is empty. Nothing else is. -/
private theorem decode_eq_padded_iff (declared : f ∈ c.interface.functions)
    (small : (Abi.encode values).length < 2 ^ 32) :
    decode f.kinds (Abi.encode values) = .ok (Value.listPadded values f.kinds) ↔
      Value.ListSuits false values f.kinds ∧ Value.AllWritten values := by
  have proper := allProper_kinds declared
  constructor
  · intro decoded
    have suit := (Value.listBelongs_padded_iff values f.kinds).1 (listBelongs_of_decode decoded)
    refine ⟨suit, ?_⟩
    by_contra unwritten
    exact not_decoded_of_unwritten (leadsBytes_kinds declared) proper suit unwritten decoded
  · rintro ⟨suit, written⟩
    exact decode_encode_padded proper suit written small

/-- A call is coded for exactly the overload that its arguments pass for. They pass also if tuples in
them lack their last fields, and the check breaks off at a tuple that is too long. Of what is coded,
exactly the arguments with whole tuples and without empty byte strings are read back. What is not
coded asks nothing. -/
theorem encode_admission (c : Contract) (name : String) (values : List Value) :
    (∀ f data, c.encode name values = .ok (f, data) ↔
      f ∈ c.interface.overloads name ∧ f.Takes values ∧
        data = f.selector.bytes ++ Abi.encode values) ∧
    (∀ e, c.encode name values = .error e ↔
      (c.interface.overloads name = [] ∧ e = .abi (.invalidName name)) ∨
      (c.interface.overloads name ≠ [] ∧ e = .unknownFunction name ∧
        ∀ f ∈ c.interface.overloads name, ¬ f.Takes values ∧ ¬ f.Overrun values)) ∧
    (∀ reason, c.encode name values = .aborted reason ↔
      reason = .tupleTooLong ∧ ∃ f ∈ c.interface.overloads name, f.Overrun values) ∧
    (∀ f ∈ c.interface.overloads name,
      (Value.ListSuits false values f.kinds → f.Takes values) ∧
      ((Abi.encode values).length < 2 ^ 32 →
        (decode f.kinds (Abi.encode values) = .ok (Value.listPadded values f.kinds) ↔
          Value.ListSuits false values f.kinds ∧ Value.AllWritten values))) ∧
    ((∀ r, c.encode name values ≠ .ok r) →
      (∀ {α : Type} (output : Output α) address options q,
        ¬ (Client.call address ⟨⟨c, name, values⟩, output⟩ options).Asks q) ∧
      ∀ address options q,
        ¬ (Client.transact address ⟨c, name, values⟩ options).Asks q) := by
  have outcome := c.admission name values
  refine ⟨outcome.ok_iff, outcome.error_iff, outcome.aborted_iff, ?_, ?_⟩
  · intro f found
    have declared := (List.mem_filter.1 found).1
    exact ⟨fun suit => ⟨suit.length_eq, Value.listSuits_of_full values f.kinds suit⟩,
      decode_eq_padded_iff declared⟩
  · intro failed
    exact ⟨Client.call_silent failed, Client.transact_silent failed⟩

/-- A privilege without fields is coded but not read back, and the check of one with five fields
breaks off. -/
theorem encode_privileges :
    let lacking : List Value := [.array [.tuple []]]
    let long : List Value := [.array [.tuple [.uint 1, .uint 2, .address ⟨0x11⟩, .uint 3, .uint 4]]]
    (∃ f ∈ privilege.interface.overloads "batchSetPrivileges",
      privilege.encode "batchSetPrivileges" lacking =
        .ok (f, f.selector.bytes ++ Abi.encode lacking) ∧
      decode f.kinds (Abi.encode lacking) ≠ .ok (Value.listPadded lacking f.kinds)) ∧
    privilege.encode "batchSetPrivileges" long = .aborted .tupleTooLong := by
  have declared : privilege.interface.overloads "batchSetPrivileges" = [⟨"batchSetPrivileges",
      [⟨"privileges", .array (.tuple [.uint 256, .uint 256, .address, .uint 256])⟩], []⟩] := by rfl
  obtain ⟨coded, -, -, readBack, -⟩ := encode_admission privilege "batchSetPrivileges"
    [.array [.tuple []]]
  obtain ⟨-, -, aborted, -⟩ := encode_admission privilege "batchSetPrivileges"
    [.array [.tuple [.uint 1, .uint 2, .address ⟨0x11⟩, .uint 3, .uint 4]]]
  have found := List.mem_singleton_self (⟨"batchSetPrivileges",
    [⟨"privileges", .array (.tuple [.uint 256, .uint 256, .address, .uint 256])⟩], []⟩ : Function)
  rw [← declared] at found
  refine ⟨⟨_, found, (coded _ _).2 ⟨found, ⟨rfl, ⟨rfl, trivial⟩, trivial⟩, rfl⟩, ?_⟩, ?_⟩
  · intro decoded
    have suit := (((readBack _ found).2 (by decide)).1 decoded).1
    have whole : false = true := suit.1.1
    cases whole
  · have fields : Value.ListOverruns [.uint 1, .uint 2, .address ⟨0x11⟩, .uint 3, .uint 4]
        [.uint 256, .uint 256, .address, .uint 256] :=
      Or.inr ⟨trivial, Or.inr ⟨trivial, Or.inr ⟨trivial, Or.inr ⟨trivial, trivial⟩⟩⟩⟩
    exact (aborted _).2 ⟨rfl, _, found, rfl, Or.inl (Or.inl fields)⟩

end Contract

end NameRights
