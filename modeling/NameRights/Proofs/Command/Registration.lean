/- NameRights/Proofs/Command/Registration
   digest: A name is registered only where the registry has said that it is available. -/

import NameRights.Command.Signing
import NameRights.Proofs.Command.Exchanges
import NameRights.Proofs.Contract.Answers
import NameRights.Proofs.Node.LegacySubmission

set_option autoImplicit false
set_option relaxedAutoImplicit false

namespace NameRights

open Abi

namespace Node

private theorem serve_call {α : Type} {c : Call α} {f : Function} {data : Bytes}
    (encoded : c.invocation.encode = .ok (f, data)) (address : Address) (options : CallOptions) :
    serve (Client.call address c options) =
      call address data options >>= fun output => Session.ofExcept (c.read f output) := by
  rw [Client.call_eq encoded]
  exact Session.attempt_bind (call address data options) (c.read f)

private theorem serve_transact {i : Invocation} {f : Function} {data : Bytes}
    (encoded : i.encode = .ok (f, data)) (address : Address) (options : TransactOptions) :
    serve (Client.transact address i options) = transact address data options := by
  rw [Client.transact_eq encoded]
  have kept := Session.attempt_bind (transact address data options) Except.ok
  have through : (fun x : Except ContractError Hash =>
      (Session.ofExcept (x >>= Except.ok) : Exchange Hash)) = Session.ofExcept := by
    funext x
    cases x <;> rfl
  rw [through] at kept
  exact kept.trans (bind_pure _)

end Node

namespace Command

/-- What the registry says for a name to be available: it is called at the latest block with the
hash of the name, and its output is decoded to true. -/
def IsAvailable (registry : Address) (name : String) (entry : Request × Reply) : Prop :=
  ∃ data j output,
    entry = (⟨"eth_call", [Form.ofCall none registry data none, .text "latest"]⟩, .ok j) ∧
    (Registry.Read.available (labelHash name)).meaning.Encodes data ∧
    Form.bytes? j = some output ∧ decode [.bool] output = .ok [.bool true]

/-- The bytes of a transaction that registers a name at a registry. -/
def Registers (registry : Address) (name : String) (owner : Address) (duration : Word)
    (raw : Bytes) : Prop :=
  ∃ e, Envelope.decode? raw = some e ∧ e.recipient = registry ∧
    (Registry.Write.register name owner duration).meaning.Encodes e.data

/-- How the requests for a registration go. -/
structure Registration (context : Context) (name : String) (owner : Address) (duration : Word)
    (prior : List (Request × Reply)) (last : Option (Request × Reply))
    (outcome : Outcome CommandFault Unit) : Prop where
  /-- Only the last request submits anything. -/
  unsent : ∀ entry ∈ prior, entry.1.method ∉ ["eth_sendTransaction", "eth_sendRawTransaction"]
  /-- It does so with a key that could be unlocked, to the registry that is configured, after this
  has said that the name is available, and all that was asked since has been answered. -/
  submitted : ∀ r reply, last = some (r, reply) →
    ∃ registry keys key first rest raw, context.registry = some registry ∧
      context.keys = some keys ∧
      (keys.unlock context.account context.password context.typed context.terminal).2 = .ok key ∧
      prior = first :: rest ∧ IsAvailable registry name first ∧
      (∀ entry ∈ rest, ∃ w, Node.readReply Form.word? entry.2 = .ok w) ∧
      r = Node.submission raw ∧
      ((Text.utf8 name).length < 2 ^ 31 → Registers registry name owner duration raw)
  /-- A success is a transaction that the node has answered with its hash. -/
  succeeded : outcome = .ok () ↔ ∃ r j h, last = some (r, .ok j) ∧ Form.hash? j = some h

variable {context : Context} {name : String} {owner : Address} {duration : Word}
  {registry : Address} {key : SecretKey}

private theorem Registration.of_unsent {prior : List (Request × Reply)}
    {outcome : Outcome CommandFault Unit} (failed : outcome ≠ .ok ())
    (unsent : ∀ entry ∈ prior, entry.1.method ∉ ["eth_sendTransaction", "eth_sendRawTransaction"]) :
    Registration context name owner duration prior none outcome where
  unsent := unsent
  submitted := fun _ _ last => nomatch last
  succeeded := iff_of_false failed fun ⟨_, _, _, last, _⟩ => nomatch last

private theorem length_encodeCall_register (name : String) (owner : Address) (duration : Word)
    (f : Function) :
    (f.encodeCall (Registry.Write.register name owner duration).invocation.arguments).length ≤
      (Text.utf8 name).length + 200 := by
  simp [Function.encodeCall, Registry.Write.invocation, encode, joinParts, parts, part, heads,
    tails, counted, Bytes.padRight, Bytes.zeros]
  omega

private theorem registers_of_signed {f : Function} {t : Transaction} {chain : Nat} {raw : Bytes}
    (means : (Registry.Write.register name owner duration).invocation.Means
      (Registry.Write.register name owner duration).meaning f)
    (short : (Text.utf8 name).length < 2 ^ 31) (untyped : t.type = none)
    (data : t.data =
      f.encodeCall (Registry.Write.register name owner duration).invocation.arguments)
    (signed : t.sign chain key = .ok raw) : Registers t.recipient name owner duration raw := by
  obtain ⟨form, s, typed, fits, rfl⟩ := Transaction.sign_eq_ok signed
  rw [untyped] at typed
  cases typed
  have arguments : ∀ a ∈ (Registry.Write.register name owner duration).meaning.arguments,
      a.2.Short := by
    intro a found
    simp only [Registry.Write.meaning, List.mem_cons, List.not_mem_nil, or_false] at found
    rcases found with rfl | rfl | rfl
    · exact Nat.lt_trans short (by decide)
    · exact trivial
    · exact trivial
  have mark : s.v < 2 ^ 256 := Nat.lt_trans fits (by decide)
  have size : t.data.length < 2 ^ 63 := by
    have length := length_encodeCall_register name owner duration f
    rw [data]
    omega
  have coded : t.signedBytes chain .legacy s =
      (t.envelope s.v s.r.value.toNat s.s.value.toNat).encode := t.coded_legacy chain _ _ _
  refine ⟨t.envelope s.v s.r.value.toNat s.s.value.toNat, ?_, rfl, ?_⟩
  · rw [coded]
    exact Envelope.decode?_encode (t.fits_envelope mark s.r.value.isLt s.s.value.isLt) size
  · have encodes := @Method.encodes_encodeCall (.registryWrite (.register name owner duration)) f
      means arguments
    change (Registry.Write.register name owner duration).meaning.Encodes t.data
    rw [data]
    exact encodes

private theorem isAvailable_of_read {f : Function} {output : Bytes} {j : Json}
    (means : (Registry.Read.available (labelHash name)).call.invocation.Means
      (Registry.Read.available (labelHash name)).meaning f)
    (found : Form.bytes? j = some output)
    (read : (Registry.Read.available (labelHash name)).call.read f output = .ok true) :
    IsAvailable registry name
      (⟨"eth_call", [Form.ofCall none registry
        (f.encodeCall (Registry.Read.available (labelHash name)).call.invocation.arguments) none,
        .text "latest"]⟩, .ok j) := by
  have outputs : f.outputs = [.bool] := by
    have declared : some f = some ⟨"available", [⟨"id", .uint 256⟩], [.bool]⟩ :=
      means.declared.symm.trans rfl
    rw [Option.some.inj declared]
  have fits : (Registry.Read.available (labelHash name)).call.output.Fits f.outputs :=
    outputs ▸ .single .bool
  refine ⟨_, j, output, rfl, ?_, found, ?_⟩
  · refine @Method.encodes_encodeCall (.registryRead (.available (labelHash name))) f means ?_
    intro a listed
    cases List.mem_singleton.1 listed
    exact trivial
  · cases decoded : decode f.outputs output with
    | error fault =>
      simp only [Call.read, Function.decodeOutput, decoded, Result.mapError_error,
        Result.error_bind, reduceCtorEq] at read
    | ok values =>
      obtain ⟨b, read', written⟩ := Call.read_of_decode fits decoded
      cases read.symm.trans read'
      rw [outputs] at decoded
      rw [decoded, ← written]
      rfl

/-- What is asked once the key is unlocked. -/
private def ask (registry : Address) (key : SecretKey) (name : String) (owner : Address)
    (duration : Word) : Session Request (fun _ => Reply) CommandFault Unit := do
  let available ← (Node.serve
    (Client.call registry (Registry.Read.available (labelHash name)).call plainCall)).mapError
      .contract
  if available then do
    let _ ← (Node.serve (Client.transact registry
      (Registry.Write.register name owner duration).invocation (.signed key .none))).mapError
        .registering
    return ()
  else
    Session.fail (.notAvailable name)

private theorem silent_signer {keys : KeyDirectory} (held : context.keys = some keys) :
    (Task.signer context).silent =
      .done ((keys.unlock context.account context.password context.typed
        context.terminal).2.mapError .key) := by
  unfold Task.signer
  simp only [held]
  rfl

private theorem silent_register (context : Context) (name : String) (owner : Address)
    (duration : Word) :
    (∃ registry keys key, context.registry = some registry ∧ context.keys = some keys ∧
      (keys.unlock context.account context.password context.typed context.terminal).2 = .ok key ∧
      (register context name owner duration).silent = ask registry key name owner duration) ∨
    ∃ outcome, outcome ≠ .ok () ∧
      (register context name owner duration).silent = .done outcome := by
  unfold register
  simp only [Task.silent_bind]
  cases registered : context.registry with
  | none => exact Or.inr ⟨.error .registryMissing, nofun, rfl⟩
  | some registry =>
    cases held : context.keys with
    | none =>
      refine Or.inr ⟨.error .keysMissing, nofun, ?_⟩
      simp only [Task.signer, held]
      rfl
    | some keys =>
      rw [silent_signer held]
      cases unlocked : (keys.unlock context.account context.password context.typed
          context.terminal).2 with
      | error reason => exact Or.inr ⟨.error (.key reason), nofun, rfl⟩
      | aborted reason => exact Or.inr ⟨.aborted reason, nofun, rfl⟩
      | ok key =>
        refine Or.inl ⟨registry, keys, key, rfl, rfl, unlocked, ?_⟩
        have given : (Task.required .registryMissing (some registry)).silent = pure registry := rfl
        have ready : (.done ((Outcome.ok key : Outcome String SecretKey).mapError .key) :
            Session Request (fun _ => Reply) CommandFault SecretKey) = pure key := rfl
        simp only [Task.silent_chain, given, ready, pure_bind]
        refine congrArg (_ >>= ·) (funext fun available => ?_)
        cases available with
        | false => rfl
        | true =>
          simp only [if_true, Task.silent_bind, Task.silent_chain]
          rfl

private theorem ends_available {t : List (Request × Reply)} {x : Outcome CommandFault Bool}
    (ends : ((Node.serve (Client.call registry (Registry.Read.available (labelHash name)).call
      plainCall)).mapError .contract).Ends t x) :
    ∃ first, t = [first] ∧ first.1.method = "eth_call" ∧
      (x = .ok true → IsAvailable registry name first) := by
  obtain ⟨f, means, -⟩ := (Registry.Read.available (labelHash name)).means
  rw [Node.serve_call means.encode] at ends
  obtain ⟨y, served, rfl⟩ := Session.ends_mapError.1 ends
  obtain ⟨before, after, z, rfl, called, ends⟩ := Session.ends_bind.1 served
  obtain ⟨reply, rfl, rfl⟩ := Node.ends_request.1 called
  cases answered : Node.readReply Form.bytes? reply with
  | error e =>
    rw [answered] at ends
    obtain ⟨rfl, rfl⟩ := ends
    exact ⟨_, rfl, rfl, nofun⟩
  | ok output =>
    rw [answered] at ends
    obtain ⟨rfl, rfl⟩ := Session.ends_done.1 ends
    refine ⟨_, rfl, rfl, ?_⟩
    intro available
    obtain ⟨j, rfl, found⟩ := Node.readReply_eq_ok.1 answered
    apply isAvailable_of_read means found
    cases read : (Registry.Read.available (labelHash name)).call.read f output with
    | error e =>
      rw [read] at available
      cases available
    | ok b =>
      rw [read] at available
      cases available
      rfl

/-- How the sending of a registration ends. -/
structure Sending (registry : Address) (name : String) (owner : Address) (duration : Word)
    (prior : List (Request × Reply)) (last : Option (Request × Reply))
    (outcome : Outcome CommandFault Hash) : Prop where
  unsent : ∀ entry ∈ prior, entry.1.method ∉ ["eth_sendTransaction", "eth_sendRawTransaction"]
  submitted : ∀ r reply, last = some (r, reply) →
    (∀ entry ∈ prior, ∃ w, Node.readReply Form.word? entry.2 = .ok w) ∧
    ∃ raw, r = Node.submission raw ∧
      ((Text.utf8 name).length < 2 ^ 31 → Registers registry name owner duration raw)
  returned : (∃ h, outcome = .ok h) ↔ ∃ r j h, last = some (r, .ok j) ∧ Form.hash? j = some h

private theorem Sending.of_unsent {prior : List (Request × Reply)}
    {outcome : Outcome CommandFault Hash}
    (failed : ∀ h, outcome ≠ .ok h)
    (unsent : ∀ entry ∈ prior, entry.1.method ∉ ["eth_sendTransaction", "eth_sendRawTransaction"]) :
    Sending registry name owner duration prior none outcome where
  unsent := unsent
  submitted := fun _ _ last => nomatch last
  returned := iff_of_false (fun ⟨h, ok⟩ => failed h ok) fun ⟨_, _, _, last, _⟩ => nomatch last

private theorem ends_sending {t : List (Request × Reply)} {x : Outcome CommandFault Hash}
    (ends : ((Node.serve (Client.transact registry
      (Registry.Write.register name owner duration).invocation (.signed key .none))).mapError
        .registering).Ends t x) :
    ∃ prior last, t = prior ++ last.toList ∧ Sending registry name owner duration prior last x := by
  obtain ⟨f, means⟩ := (Registry.Write.register name owner duration).means
  rw [Node.serve_transact means.encode] at ends
  obtain ⟨y, served, rfl⟩ := Session.ends_mapError.1 ends
  obtain ⟨prior, words, gathers, ends⟩ := Node.Account.ends_transact (.own key) _ _ .none served
  have unsent := (Node.Account.preparation_of_gathers gathers).unsent
  cases words with
  | error e =>
    obtain ⟨rfl, rfl⟩ := ends
    exact ⟨t, none, (List.append_nil t).symm, .of_unsent nofun unsent⟩
  | ok words =>
    simp only at ends
    cases made : (Node.Account.own key).submission registry
        (f.encodeCall (Registry.Write.register name owner duration).invocation.arguments) .none
        words with
    | error e =>
      rw [made] at ends
      obtain ⟨rfl, rfl⟩ := ends
      exact ⟨t, none, (List.append_nil t).symm, .of_unsent nofun unsent⟩
    | aborted reason =>
      rw [made] at ends
      obtain ⟨rfl, rfl⟩ := ends
      exact ⟨t, none, (List.append_nil t).symm, .of_unsent nofun unsent⟩
    | ok r =>
      rw [made] at ends
      obtain ⟨reply, rfl, rfl⟩ := ends
      obtain ⟨raw, signed, rfl⟩ := Node.Account.submission_own made
      refine ⟨prior, some (_, reply), rfl, unsent, ?_, ?_⟩
      · intro r' reply' last
        cases last
        refine ⟨?_, raw, rfl, fun short => registers_of_signed means short rfl rfl signed⟩
        intro entry listed
        cases read : Node.readReply Form.word? entry.2 with
        | ok w => exact ⟨w, rfl⟩
        | error e => cases gathers.failure listed read
      · constructor
        · rintro ⟨h, ok⟩
          cases read : Node.readReply Form.hash? reply with
          | error e =>
            rw [read] at ok
            cases ok
          | ok h' =>
            obtain ⟨j, rfl, found⟩ := Node.readReply_eq_ok.1 read
            exact ⟨_, j, h', rfl, found⟩
        · rintro ⟨r', j, h, last, found⟩
          cases last
          have read : Node.readReply Form.hash? (.ok j) = .ok h :=
            Node.readReply_eq_ok.2 ⟨j, rfl, found⟩
          rw [read]
          exact ⟨h, rfl⟩

private theorem ends_ask {keys : KeyDirectory} {t : List (Request × Reply)}
    {x : Outcome CommandFault Unit} (registered : context.registry = some registry)
    (held : context.keys = some keys)
    (unlocked : (keys.unlock context.account context.password context.typed
      context.terminal).2 = .ok key)
    (ends : (ask registry key name owner duration).Ends t x) :
    ∃ prior last, t = prior ++ last.toList ∧
      Registration context name owner duration prior last x := by
  obtain ⟨before, after, said, rfl, asked, ends⟩ := Session.ends_bind.1 ends
  obtain ⟨first, rfl, method, available⟩ := ends_available asked
  have call : first.1.method ∉ ["eth_sendTransaction", "eth_sendRawTransaction"] := by
    rw [method]
    decide
  have alone : ∀ entry ∈ [first],
      entry.1.method ∉ ["eth_sendTransaction", "eth_sendRawTransaction"] := by
    intro entry listed
    rw [List.mem_singleton.1 listed]
    exact call
  cases said with
  | error e =>
    obtain ⟨rfl, rfl⟩ := ends
    exact ⟨[first], none, rfl, .of_unsent nofun alone⟩
  | aborted reason =>
    obtain ⟨rfl, rfl⟩ := ends
    exact ⟨[first], none, rfl, .of_unsent nofun alone⟩
  | ok answer =>
    cases answer with
    | false =>
      obtain ⟨rfl, rfl⟩ := Session.ends_done.1 ends
      exact ⟨[first], none, rfl, .of_unsent nofun alone⟩
    | true =>
      obtain ⟨sent, nothing, z, rfl, ended, ends⟩ := Session.ends_bind.1 ends
      obtain ⟨prior, last, rfl, sending⟩ := ends_sending ended
      have closing : nothing = [] ∧ (x = .ok () ↔ ∃ h, z = .ok h) := by
        cases z with
        | ok h =>
          obtain ⟨rfl, rfl⟩ := Session.ends_done.1 ends
          exact ⟨rfl, iff_of_true rfl ⟨h, rfl⟩⟩
        | error e =>
          obtain ⟨rfl, rfl⟩ := ends
          exact ⟨rfl, iff_of_false nofun nofun⟩
        | aborted reason =>
          obtain ⟨rfl, rfl⟩ := ends
          exact ⟨rfl, iff_of_false nofun nofun⟩
      obtain ⟨rfl, success⟩ := closing
      refine ⟨first :: prior, last, by simp, ?_, ?_, success.trans sending.returned⟩
      · intro entry listed
        rcases List.mem_cons.1 listed with rfl | later
        · exact call
        · exact sending.unsent entry later
      · intro r reply submitted
        obtain ⟨answered, raw, same, registers⟩ := sending.submitted r reply submitted
        exact ⟨registry, keys, key, first, prior, raw, registered, held, unlocked, rfl,
          available rfl, answered, same, registers⟩

/-- Whatever a node answers to a registration: at most one transaction is submitted, by the last
request, and only after the configured registry has answered that the name is available. It goes to
that registry and registers the very name for the owner. Without a registry or a key, after an
answer that is an error or cannot be read, and where the name is not available, nothing is
submitted; and the command succeeds only with the hash of the transaction. -/
theorem register_course {σ : Type} (node : Request → σ → Reply × σ) (s : σ) (context : Context)
    (name : String) (owner : Address) (duration : Word) :
    ∃ prior last,
      (register context name owner duration).exchanges node s = prior ++ last.toList ∧
      Registration context name owner duration prior last
        ((register context name owner duration).outcome node s) := by
  have ends := Task.ends_silent node (register context name owner duration) s
  rcases silent_register context name owner duration with
    ⟨registry, keys, key, registered, held, unlocked, same⟩ | ⟨outcome, failed, same⟩
  · rw [same] at ends
    exact ends_ask registered held unlocked ends
  · rw [same] at ends
    obtain ⟨asked, ended⟩ := Session.ends_done.1 ends
    rw [asked, ← ended]
    exact ⟨[], none, rfl, .of_unsent failed fun _ none => nomatch none⟩

end Command

end NameRights
