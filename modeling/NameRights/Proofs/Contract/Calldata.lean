/- NameRights/Proofs/Contract/Calldata
   digest: A method hands over one question, whose data are read back as its function's
   arguments. -/

import NameRights.Client
import NameRights.Proofs.Contract.Method
import NameRights.Proofs.Contract.Selectors

set_option autoImplicit false
set_option relaxedAutoImplicit false

namespace NameRights

open Abi

namespace Invocation.Means

variable {i : Invocation} {m : Meaning} {f : Function}

theorem mem (means : i.Means m f) : f ∈ m.contract.interface.functions :=
  List.mem_of_find?_eq_some means.declared

theorem signature (means : i.Means m f) : f.signature = m.signature := by
  simpa using List.find?_some means.declared

theorem encode (means : i.Means m f) : i.encode = .ok (f, f.encodeCall i.arguments) := by
  have declared := means.mem
  rw [← means.contract] at declared
  have found := Contract.function_eq declared means.belong
  rw [means.name] at found
  simp only [Invocation.encode, Contract.encode, found, bind, Outcome.bind, pure]

end Invocation.Means

theorem Contract.allProper_kinds {c : Contract} {f : Function}
    (declared : f ∈ c.interface.functions) : Kind.allProper f.kinds = true := by
  have all : ∀ f ∈ c.interface.functions, Kind.allProper f.kinds = true := by
    cases c <;> decide
  exact all f declared

namespace Client

theorem call_eq {α : Type} {c : Call α} {f : Function} {data : Bytes}
    (encoded : c.invocation.encode = .ok (f, data)) (address : Address) (options : CallOptions) :
    call address c options =
      .ask (.call address data options) fun reply => .ofExcept (reply >>= c.read f) := by
  simp only [call, encoded, Session.ofOutcome, bind, Session.bind, Dialogue.query]
  congr 1
  funext reply
  cases reply <;> rfl

theorem transact_eq {i : Invocation} {f : Function} {data : Bytes}
    (encoded : i.encode = .ok (f, data)) (address : Address) (options : TransactOptions) :
    transact address i options = .ask (.transact address data options) Session.ofExcept := by
  simp only [transact, encoded, Session.ofOutcome, bind, Session.bind, Dialogue.query]

end Client

namespace Meaning

/-- The data call the function that is meant. They start with the four bytes that the contract's
table of selectors has for its signature, which the hash of the signature starts with too, and what
follows is decoded at the types of its inputs to the arguments, each in the input of its name. -/
def Encodes (m : Meaning) (data : Bytes) : Prop :=
  ∃ f ∈ m.contract.interface.functions, f.signature = m.signature ∧
    f.inputs.map Param.name = m.arguments.map Prod.fst ∧
    ∃ entry ∈ m.contract.selectors, entry.signature = m.signature ∧
      (Keccak.hash (Text.utf8 m.signature)).take 4 = entry.selector.bytes ∧
      ∃ body, data = entry.selector.bytes ++ body ∧
        decode f.kinds body = .ok (m.arguments.map Prod.snd)

end Meaning

namespace Method

/-- Whatever it is answered, the method asks one question, which is to call the contract at an
address, or to send it a transaction, with the data. -/
def Asks (m : Method) (address : Address) (data : Bytes) : Prop :=
  match m with
  | registryRead r => ∀ (options : CallOptions) {σ : Type}
      (answer : (q : Question) → σ → Answer q × σ) (s : σ),
      ((Client.call address r.call options).run answer s).1 = [.call address data options]
  | registryWrite w => ∀ (options : TransactOptions) {σ : Type}
      (answer : (q : Question) → σ → Answer q × σ) (s : σ),
      ((Client.transact address w.invocation options).run answer s).1 =
        [.transact address data options]
  | privilegeRead r => ∀ (options : CallOptions) {σ : Type}
      (answer : (q : Question) → σ → Answer q × σ) (s : σ),
      ((Client.call address r.call options).run answer s).1 = [.call address data options]
  | privilegeWrite w => ∀ (options : TransactOptions) {σ : Type}
      (answer : (q : Question) → σ → Answer q × σ) (s : σ),
      ((Client.transact address w.invocation options).run answer s).1 =
        [.transact address data options]

private theorem run_answered {α σ : Type} {q : Question} {next : Answer q → Except ContractError α}
    (answer : (q : Question) → σ → Answer q × σ) (s : σ) :
    (Session.run answer (.ask q fun reply => .ofExcept (next reply)) s).1 = [q] := rfl

theorem asks_of_encode {m : Method} {f : Function} {data : Bytes}
    (encoded : m.invocation.encode = .ok (f, data)) (address : Address) : m.Asks address data := by
  cases m with
  | registryRead r =>
    intro options σ answer s
    rw [Client.call_eq encoded]
    exact run_answered answer s
  | registryWrite w =>
    intro options σ answer s
    have encoded : w.invocation.encode = .ok (f, data) := encoded
    rw [Client.transact_eq encoded]
    exact run_answered answer s
  | privilegeRead r =>
    intro options σ answer s
    rw [Client.call_eq encoded]
    exact run_answered answer s
  | privilegeWrite w =>
    intro options σ answer s
    have encoded : w.invocation.encode = .ok (f, data) := encoded
    rw [Client.transact_eq encoded]
    exact run_answered answer s

private theorem asks_unique {m : Method} {address : Address} {data other : Bytes}
    (asks : m.Asks address data) (asksOther : m.Asks address other) : data = other := by
  have refuse : (q : Question) → Unit → Answer q × Unit := fun _ s => (.error .sinkClosed, s)
  cases m with
  | registryRead r =>
    have same := (asks ⟨none, none⟩ refuse ()).symm.trans (asksOther ⟨none, none⟩ refuse ())
    simpa using same
  | registryWrite w =>
    have same := (asks (.unsigned address .none) refuse ()).symm.trans
      (asksOther (.unsigned address .none) refuse ())
    simpa using same
  | privilegeRead r =>
    have same := (asks ⟨none, none⟩ refuse ()).symm.trans (asksOther ⟨none, none⟩ refuse ())
    simpa using same
  | privilegeWrite w =>
    have same := (asks (.unsigned address .none) refuse ()).symm.trans
      (asksOther (.unsigned address .none) refuse ())
    simpa using same

theorem decode_arguments {m : Method} {f : Function} (means : m.invocation.Means m.meaning f)
    (short : ∀ a ∈ m.meaning.arguments, a.2.Short) :
    decode f.kinds (encode m.invocation.arguments) = .ok (m.meaning.arguments.map Prod.snd) := by
  have decoded := decode_encode_append (Contract.allProper_kinds means.mem) means.belong
    (m.compact_arguments short) []
  rw [← means.arguments, ← decoded, List.append_nil]

/-- The calldata of a method with short arguments call the function it stands for. -/
theorem encodes_encodeCall {m : Method} {f : Function} (means : m.invocation.Means m.meaning f)
    (short : ∀ a ∈ m.meaning.arguments, a.2.Short) :
    m.meaning.Encodes (f.encodeCall m.invocation.arguments) := by
  obtain ⟨entry, listed, same⟩ := Contract.exists_entry means.mem
  have signature : entry.signature = m.meaning.signature := same.trans means.signature
  have hashed := Contract.take_hash_signature listed
  rw [signature] at hashed
  refine ⟨f, means.mem, means.signature, means.inputs, entry, listed, signature, hashed,
    encode m.invocation.arguments, ?_, decode_arguments means short⟩
  rw [Function.encodeCall, Contract.selector_eq listed same]

private theorem eq_of_asks {m n : Method} (short : ∀ a ∈ m.meaning.arguments, a.2.Short)
    (otherShort : ∀ a ∈ n.meaning.arguments, a.2.Short)
    (contract : n.meaning.contract = m.meaning.contract)
    (signature : n.meaning.signature = m.meaning.signature) {address other : Address} {data : Bytes}
    (asks : m.Asks address data) (otherAsks : n.Asks other data) : n = m := by
  obtain ⟨f, means⟩ := m.means
  obtain ⟨g, otherMeans⟩ := n.means
  obtain rfl : f = g := by
    have declared := otherMeans.declared
    rw [contract, signature, means.declared] at declared
    exact Option.some.inj declared
  -- one function, so one selector: the rest is decoded to the arguments of both
  have calldata := asks_unique asks (asks_of_encode means.encode address)
  rw [asks_unique otherAsks (asks_of_encode otherMeans.encode other)] at calldata
  have bodies := List.append_cancel_left calldata
  have values := decode_arguments means short
  rw [← bodies, decode_arguments otherMeans otherShort] at values
  have arguments : n.meaning.arguments = m.meaning.arguments :=
    (List.zip_of_prod (otherMeans.inputs.symm.trans means.inputs) (Except.ok.inj values)).trans
      (List.zip_of_prod rfl rfl).symm
  refine eq_of_meaning ?_
  cases first : n.meaning
  cases second : m.meaning
  simp_all

/-- Every method with short arguments hands over one question to the contract at its address. The
calldata are those of the function the method stands for with the method's arguments, and no other
arguments of it have the same. -/
theorem calldata_exact (m : Method) (short : ∀ a ∈ m.meaning.arguments, a.2.Short)
    (address : Address) : ∃ data, m.Asks address data ∧ m.meaning.Encodes data ∧
      ∀ (n : Method) (other : Address), (∀ a ∈ n.meaning.arguments, a.2.Short) →
        n.meaning.contract = m.meaning.contract → n.meaning.signature = m.meaning.signature →
        n.Asks other data → n = m := by
  obtain ⟨f, means⟩ := m.means
  have asks := asks_of_encode means.encode address
  refine ⟨f.encodeCall m.invocation.arguments, asks, encodes_encodeCall means short, ?_⟩
  intro n other otherShort contract signature otherAsks
  exact eq_of_asks short otherShort contract signature asks otherAsks

/-- A registration at a registry, with the selector that its contract has for it. -/
theorem calldata_register :
    (∀ a ∈ (registryWrite (.register "alice" ⟨0xaa⟩ 31536000)).meaning.arguments, a.2.Short) ∧
    ∃ data body, (registryWrite (.register "alice" ⟨0xaa⟩ 31536000)).Asks (.replicate 0x11) data ∧
      Meaning.Encodes ⟨.registry, "register(string,address,uint256)",
        [("name", .string "alice"), ("owner", .address ⟨0xaa⟩), ("duration", .uint 31536000)]⟩
        data ∧
      data = [0xd3, 0x93, 0xc8, 0x71] ++ body := by
  have short : ∀ a ∈ (registryWrite (.register "alice" ⟨0xaa⟩ 31536000)).meaning.arguments,
      a.2.Short := by
    intro a found
    simp only [meaning, Registry.Write.meaning, List.mem_cons, List.not_mem_nil, or_false] at found
    rcases found with rfl | rfl | rfl
    · change (Text.utf8 "alice").length < 2 ^ 32
      decide
    · exact trivial
    · exact trivial
  have listed : ∀ entry ∈ Contract.registry.selectors,
      entry.signature = "register(string,address,uint256)" →
        entry.selector.bytes = [0xd3, 0x93, 0xc8, 0x71] := by
    decide +kernel
  obtain ⟨data, asks, encodes, -⟩ := calldata_exact _ short (.replicate 0x11)
  obtain ⟨body, led⟩ : ∃ body, data = [0xd3, 0x93, 0xc8, 0x71] ++ body := by
    obtain ⟨-, -, -, -, entry, stands, same, -, body, front, -⟩ := encodes
    exact ⟨body, by rw [front, listed entry stands same]⟩
  exact ⟨short, data, body, asks, encodes, led⟩

end Method

end NameRights
