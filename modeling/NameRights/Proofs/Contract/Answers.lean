/- NameRights/Proofs/Contract/Answers
   digest: What a reading method returns, for every reply to its call. -/

import NameRights.Proofs.Contract.Calldata

set_option autoImplicit false
set_option relaxedAutoImplicit false

namespace NameRights

open Abi Result

/-- How a read of outputs of some types ends. It asks one question; an error of the node is its own.
The coding of values of the types comes to these values, any other bytes to a value or to a fault of
the contract data. -/
structure Client.Answers {α : Type} (address : Address) (c : Call α) (outputs : List Kind)
    (options : CallOptions) (data : Bytes)
    (next : Answer (.call address data options) → Dialogue α) : Prop where
  asks : call address c options = .ask (.call address data options) next
  failed : ∀ error, next (.error error) = .done (.error error)
  coded : ∀ values, Value.ListBelongs values outputs →
    (∀ s, .string s ∈ values → (Text.utf8 s).length < 2 ^ 32) →
    ∃ a, next (.ok (encode values)) = .done (.ok a) ∧ c.output.write a = values
  replied : ∀ bytes, (∃ a, next (.ok bytes) = .done (.ok a)) ∨
    ∃ fault, next (.ok bytes) = .done (.error (.abi fault))

namespace Call

variable {α : Type} {c : Call α} {f : Function}

theorem read_of_decode (fits : c.output.Fits f.outputs) {data : Bytes} {values : List Value}
    (decoded : decode f.outputs data = .ok values) :
    ∃ a, c.read f data = .ok a ∧ c.output.write a = values := by
  obtain ⟨a, read, written⟩ := fits.exists_read (listBelongs_of_decode decoded)
  refine ⟨a, ?_, written⟩
  simp only [Call.read, Function.decodeOutput, decoded, mapError_ok, ok_bind, read]

private theorem read_encode (fits : c.output.Fits f.outputs) {values : List Value}
    (belong : Value.ListBelongs values f.outputs)
    (short : ∀ s, .string s ∈ values → (Text.utf8 s).length < 2 ^ 32) :
    ∃ a, c.read f (encode values) = .ok a ∧ c.output.write a = values := by
  have decoded := decode_encode_append fits.allProper belong (fits.compact belong short) []
  rw [List.append_nil] at decoded
  exact read_of_decode fits decoded

private theorem read_total (fits : c.output.Fits f.outputs) (data : Bytes) :
    (∃ a, c.read f data = .ok a) ∨ ∃ fault, c.read f data = .error (.abi fault) := by
  cases decoded : decode f.outputs data with
  | error fault =>
    refine .inr ⟨fault, ?_⟩
    simp only [Call.read, Function.decodeOutput, decoded, mapError_error, error_bind]
  | ok values =>
    obtain ⟨a, read, -⟩ := read_of_decode fits decoded
    exact .inl ⟨a, read⟩

private theorem answers (fits : c.output.Fits f.outputs) {data : Bytes}
    (encoded : c.invocation.encode = .ok (f, data)) (address : Address) (options : CallOptions) :
    Client.Answers address c f.outputs options data
      (fun reply => .ofExcept (reply >>= c.read f)) where
  asks := Client.call_eq encoded address options
  failed _ := rfl
  coded values belong short := by
    obtain ⟨a, read, written⟩ := read_encode fits belong short
    exact ⟨a, congrArg Session.ofExcept read, written⟩
  replied bytes := by
    rcases read_total fits bytes with ⟨a, read⟩ | ⟨fault, failed⟩
    · exact .inl ⟨a, congrArg Session.ofExcept read⟩
    · exact .inr ⟨fault, congrArg Session.ofExcept failed⟩

end Call

/-- Every reading method of the two clients answers with the outputs of the function it stands
for. -/
theorem Client.answers_exact {α : Type} (address : Address) (options : CallOptions) :
    (∀ r : Registry.Read α, ∃ f ∈ r.meaning.contract.interface.functions,
      f.signature = r.meaning.signature ∧
      ∃ data next, Answers address r.call f.outputs options data next) ∧
    (∀ r : Privilege.Read α, ∃ f ∈ r.meaning.contract.interface.functions,
      f.signature = r.meaning.signature ∧
      ∃ data next, Answers address r.call f.outputs options data next) := by
  constructor
  · intro r
    obtain ⟨f, means, fits⟩ := r.means
    exact ⟨f, means.mem, means.signature, _, _, Call.answers fits means.encode address options⟩
  · intro r
    obtain ⟨f, means, fits⟩ := r.means
    exact ⟨f, means.mem, means.signature, _, _, Call.answers fits means.encode address options⟩

/-- The holder of a privilege slot and when it runs out, as the contract answers them. -/
theorem Client.answers_privilegeOf :
    ∃ data next, Client.call (.replicate 0x11) (Privilege.Read.call (.privilegeOf 1 2))
        ⟨none, none⟩ = .ask (.call (.replicate 0x11) data ⟨none, none⟩) next ∧
      next (.ok (encode [.address ⟨0xaa⟩, .uint 7])) = .done (.ok (⟨0xaa⟩, 7)) := by
  obtain ⟨f, declared, signature, data, next, answers⟩ :=
    (answers_exact (.replicate 0x11) ⟨none, none⟩).2 (.privilegeOf 1 2)
  obtain rfl : f = ⟨"privilegeOf", [⟨"tokenId", .uint 256⟩, ⟨"privilegeId", .uint 256⟩],
      [.address, .uint 256]⟩ := by
    refine Contract.eq_of_signature declared ?_ signature
    simp [Privilege.Read.meaning, Contract.interface, Contract.privilegeInterface,
      Contract.privilegeFunctions]
  obtain ⟨a, answered, written⟩ := answers.coded [.address ⟨0xaa⟩, .uint 7]
    ⟨trivial, trivial, trivial⟩ (by simp)
  obtain ⟨holder, expires⟩ := a
  have both : holder = ⟨0xaa⟩ ∧ expires = 7 := by
    simpa [Privilege.Read.call, Output.write, Shape.write] using written
  exact ⟨data, next, answers.asks, by rw [answered, both.1, both.2]⟩

end NameRights
