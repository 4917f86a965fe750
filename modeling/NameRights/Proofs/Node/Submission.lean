/- NameRights/Proofs/Node/Submission
   digest: What is asked of a node before a transaction is submitted, and when one is submitted. -/

import NameRights.Node.Exchange
import NameRights.Proofs.Result
import NameRights.Proofs.Session.Transcript

set_option autoImplicit false
set_option relaxedAutoImplicit false

namespace NameRights

namespace Node

open Exchange

def readReply {α : Type} (read : Json → Option α) : Reply → Except ContractError α
  | .error e => .error (.node e)
  | .ok j =>
    match read j with
    | some a => .ok a
    | none => .error (.node .undecodable)

theorem readReply_eq_ok {α : Type} {read : Json → Option α} {reply : Reply} {a : α} :
    readReply read reply = .ok a ↔ ∃ j, reply = .ok j ∧ read j = some a := by
  cases reply with
  | error e => simp [readReply]
  | ok j =>
    simp only [readReply]
    cases found : read j <;> simp [found]

private theorem request_eq {α : Type} (method : String) (params : List Json)
    (read : Json → Option α) :
    request method params read =
      .ask ⟨method, params⟩ fun reply => .done (.ofExcept (readReply read reply)) := by
  unfold request
  congr
  funext reply
  cases reply with
  | error e => rfl
  | ok j =>
    simp only [readReply]
    cases read j <;> rfl

theorem ends_request {α : Type} {method : String} {params : List Json} {read : Json → Option α}
    {t : List (Request × Reply)} {y : Outcome ContractError α} :
    (request method params read).Ends t y ↔
      ∃ reply, t = [(⟨method, params⟩, reply)] ∧ y = .ofExcept (readReply read reply) := by
  simp only [request_eq, Session.ends_ask, Session.ends_done]
  constructor
  · rintro ⟨reply, rest, rfl, rfl, same⟩
    exact ⟨reply, rfl, same.symm⟩
  · rintro ⟨reply, rfl, same⟩
    exact ⟨reply, [], rfl, rfl, same.symm⟩

/-- Words that are wanted: each is given, or the answer to a request. -/
abbrev Wants := List (Option Word × Request)

def Wants.requests (wants : Wants) : List Request :=
  wants.filterMap fun want => if want.1.isNone then some want.2 else none

theorem Wants.requests_cons (given : Option Word) (r : Request) (wants : Wants) :
    Wants.requests ((given, r) :: wants) = (if given.isNone then [r] else []) ++ wants.requests := by
  cases given <;> rfl

private theorem Wants.mem_requests {wants : Wants} {r : Request} (asked : r ∈ wants.requests) :
    ∃ given, (given, r) ∈ wants := by
  obtain ⟨⟨given, r'⟩, listed, wanted⟩ := List.mem_filterMap.1 asked
  cases given with
  | none =>
    cases wanted
    exact ⟨_, listed⟩
  | some w => cases wanted

/-- How words are gathered: in order, up to the first answer that is no word. -/
inductive Gathers : Wants → List (Request × Reply) → Except ContractError (List Word) → Prop
  | nil : Gathers [] [] (.ok [])
  | given (w : Word) (r : Request) {wants : Wants} {t : List (Request × Reply)}
      {x : Except ContractError (List Word)} (rest : Gathers wants t x) :
      Gathers ((some w, r) :: wants) t (x.map (w :: ·))
  | answered (r : Request) {reply : Reply} {w : Word} (read : readReply Form.word? reply = .ok w)
      {wants : Wants} {t : List (Request × Reply)} {x : Except ContractError (List Word)}
      (rest : Gathers wants t x) :
      Gathers ((none, r) :: wants) ((r, reply) :: t) (x.map (w :: ·))
  | failed (r : Request) {reply : Reply} {e : ContractError}
      (read : readReply Form.word? reply = .error e) (wants : Wants) :
      Gathers ((none, r) :: wants) [(r, reply)] (.error e)

def gather : Wants → Exchange (List Word)
  | [] => pure []
  | (given, r) :: wants => do
    let w ← givenOr given (request r.method r.params Form.word?)
    let words ← gather wants
    return w :: words

namespace Gathers

variable {wants : Wants} {t : List (Request × Reply)} {x : Except ContractError (List Word)}

private theorem of_ends {y : Outcome ContractError (List Word)} (ends : (gather wants).Ends t y) :
    ∃ x, Gathers wants t x ∧ y = .ofExcept x := by
  induction wants generalizing t y with
  | nil =>
    obtain ⟨rfl, rfl⟩ := Session.ends_done.1 ends
    exact ⟨.ok [], .nil, rfl⟩
  | cons want wants ih =>
    obtain ⟨given, r⟩ := want
    -- whichever way the first word came, the others are gathered behind it
    have others {w : Word} {rest : List (Request × Reply)}
        (ends : (gather wants >>= fun words => pure (w :: words)).Ends rest y) :
        ∃ x, Gathers wants rest x ∧ y = .ofExcept (x.map (w :: ·)) := by
      obtain ⟨before, after, z, rfl, gathered, ends⟩ := Session.ends_bind.1 ends
      obtain ⟨x, gathers, rfl⟩ := ih gathered
      cases x with
      | ok words =>
        obtain ⟨rfl, rfl⟩ := Session.ends_done.1 ends
        rw [List.append_nil]
        exact ⟨.ok words, gathers, rfl⟩
      | error e =>
        obtain ⟨rfl, rfl⟩ := ends
        rw [List.append_nil]
        exact ⟨.error e, gathers, rfl⟩
    cases given with
    | some w =>
      obtain ⟨x, gathers, same⟩ := others ends
      exact ⟨_, .given w r gathers, same⟩
    | none =>
      obtain ⟨before, after, z, rfl, asked, ends⟩ := Session.ends_bind.1 ends
      obtain ⟨reply, rfl, rfl⟩ := ends_request.1 asked
      cases read : readReply Form.word? reply with
      | ok w =>
        rw [read] at ends
        obtain ⟨x, gathers, same⟩ := others ends
        exact ⟨_, .answered r read gathers, same⟩
      | error e =>
        rw [read] at ends
        obtain ⟨rfl, rfl⟩ := ends
        exact ⟨_, .failed r read wants, rfl⟩

private theorem requests (gathers : Gathers wants t x) :
    t.map Prod.fst <+: wants.requests ∧
      ∀ words, x = .ok words → t.map Prod.fst = wants.requests := by
  induction gathers with
  | nil => exact ⟨List.prefix_rfl, fun _ _ => rfl⟩
  | given w r rest ih =>
    refine ⟨ih.1, fun words same => ?_⟩
    obtain ⟨others, same, -⟩ := Result.map_eq_ok.1 same
    exact ih.2 others same
  | answered r read rest ih =>
    refine ⟨List.cons_prefix_cons.2 ⟨rfl, ih.1⟩, fun words same => ?_⟩
    obtain ⟨others, same, -⟩ := Result.map_eq_ok.1 same
    exact congrArg (r :: ·) (ih.2 others same)
  | failed r read wants =>
    refine ⟨List.cons_prefix_cons.2 ⟨rfl, List.nil_prefix⟩, fun words same => ?_⟩
    cases same

theorem failure (gathers : Gathers wants t x) {entry : Request × Reply} (asked : entry ∈ t)
    {e : ContractError} (failed : readReply Form.word? entry.2 = .error e) : x = .error e := by
  induction gathers with
  | nil => cases asked
  | given w r rest ih => rw [ih asked, Except.map]
  | answered r read rest ih =>
    rcases List.mem_cons.1 asked with rfl | later
    · cases read.symm.trans failed
    · rw [ih later, Except.map]
  | failed r read wants =>
    obtain rfl := List.mem_singleton.1 asked
    cases read.symm.trans failed
    rfl

private theorem first {given : Option Word} {r : Request} {words : List Word}
    (gathers : Gathers ((given, r) :: wants) t (.ok words)) :
    given = some (words.getD 0 0) ∨ given = none ∧ ∃ reply rest, t = (r, reply) :: rest ∧
      readReply Form.word? reply = .ok (words.getD 0 0) := by
  generalize result : Except.ok words = x at gathers
  cases gathers with
  | given w r rest =>
    obtain ⟨others, -, rfl⟩ := Result.map_eq_ok.1 result.symm
    exact Or.inl rfl
  | answered r read rest =>
    obtain ⟨others, -, rfl⟩ := Result.map_eq_ok.1 result.symm
    exact Or.inr ⟨rfl, _, _, rfl, read⟩
  | failed r read wants => cases result

private theorem exists_first {r : Request} (gathers : Gathers ((none, r) :: wants) t x) :
    ∃ reply rest, t = (r, reply) :: rest := by
  cases gathers with
  | answered r read rest => exact ⟨_, _, rfl⟩
  | failed r read wants => exact ⟨_, _, rfl⟩

end Gathers

theorem find?_optional {α : Type} (name other : String) (encode : α → Json)
    (value : Option α) :
    (Form.optional name encode value).reverse.find? (·.1 == other) =
      if name = other then value.map fun a => (name, encode a) else none := by
  cases value with
  | none => simp [Form.optional]
  | some a =>
    by_cases same : name = other
    · simp [Form.optional, same]
    · simp [Form.optional, same]

private theorem field?_ofTransaction (sender recipient : Address) (data : Bytes) (gas : Word)
    (terms : TransactionTerms) :
    (Form.ofTransaction sender recipient data gas terms).field? "gas" = some (Form.ofWord gas) ∧
    ∀ name ∈ ["from", "to", "data", "value"],
      (Form.ofTransaction sender recipient data gas terms).field? name =
        (Form.ofCall (some sender) recipient data terms.value).field? name := by
  simp [Json.field?, Form.ofTransaction, Form.ofCall, List.find?_append, List.find?_cons,
    find?_optional]

end Node

theorem Transaction.sign_eq_ok {t : Transaction} {chain : Nat} {key : SecretKey} {raw : Bytes}
    (made : t.sign chain key = .ok raw) :
    ∃ form s, form? t.type = some form ∧ s.v < UInt64.size ∧
      raw = t.signedBytes chain form s := by
  unfold sign at made
  split at made
  · cases made
  · rename_i form typed
    split at made
    · rename_i s signed
      split at made
      · rename_i fits
        cases made
        exact ⟨form, s, typed, fits, rfl⟩
      · cases made
    · cases made

namespace Node

open Exchange

/-- Who sends a transaction: an account whose key the node holds, or one whose key is here. -/
inductive Account where
  | remote (sender : Address)
  | own (key : SecretKey)

namespace Account

def address : Account → Address
  | remote sender => sender
  | own key => key.address

def options (terms : TransactionTerms) : Account → TransactOptions
  | remote sender => .unsigned sender terms
  | own key => .signed key terms

/-- The request for the gas of a transaction, told to the node as a call. -/
def estimate (account : Account) (recipient : Address) (data : Bytes) (value : Option Word) :
    Request :=
  ⟨"eth_estimateGas", [Form.ofCall (some account.address) recipient data value]⟩

/-- The price of gas, as far as it is given: with capped fees the cap comes first. -/
def price (terms : TransactionTerms) : Option Word :=
  if hasCappedFees terms && terms.maxFee.isSome then terms.maxFee else terms.gasPrice

def wants (account : Account) (recipient : Address) (data : Bytes) (terms : TransactionTerms) :
    Wants :=
  (terms.gas, account.estimate recipient data terms.value) ::
    match account with
    | remote _ => []
    | own key =>
      [(terms.nonce, ⟨"eth_getTransactionCount", [Form.ofAddress key.address, .text "latest"]⟩),
       (price terms, ⟨"eth_gasPrice", []⟩),
       (none, ⟨"eth_chainId", []⟩)]

def transaction (recipient : Address) (data : Bytes) (terms : TransactionTerms)
    (gas nonce price : Word) : Transaction where
  recipient
  nonce
  gas
  gasPrice := price
  value := terms.value.getD 0
  data
  type := terms.type
  accessList := terms.accessList.getD []
  maxPriorityFee := if hasCappedFees terms then terms.maxPriorityFee.getD price else price

/-- The request that submits a transaction, made of the words that were wanted. -/
def submission (account : Account) (recipient : Address) (data : Bytes) (terms : TransactionTerms)
    (words : List Word) : Outcome ContractError Request :=
  let gas := words.getD 0 0
  match account with
  | remote sender =>
    .ok ⟨"eth_sendTransaction", [Form.ofTransaction sender recipient data gas terms]⟩
  | own key =>
    let chain := (words.getD 3 0).toNat
    if chain < UInt64.size then do
      let raw ← (transaction recipient data terms gas (words.getD 1 0) (words.getD 2 0)).sign chain key
      return ⟨"eth_sendRawTransaction", [Form.ofBytes raw]⟩
    else .aborted .chainIdTooLarge

variable (account : Account) (recipient : Address) (data : Bytes) (terms : TransactionTerms)

/-- To submit a transaction is to gather what is wanted, and then to make one more request. -/
theorem transact_eq :
    transact recipient data (account.options terms) = (do
      let words ← gather (account.wants recipient data terms)
      let r ← Session.ofOutcome (account.submission recipient data terms words)
      request r.method r.params Form.hash?) := by
  cases account with
  | remote sender =>
    simp only [transact, options, TransactOptions.unsigned, wants, gather, bind_assoc, pure_bind]
    rfl
  | own key =>
    simp only [transact, options, TransactOptions.signed, wants, gather, bind_assoc, pure_bind,
      settle, chainId]
    refine bind_congr fun gas => bind_congr fun nonce => bind_congr fun price =>
      bind_congr fun chain => ?_
    by_cases fits : chain.toNat < UInt64.size
    · have submitted : (own key).submission recipient data terms [gas, nonce, price, chain] = (do
          let raw ← (transaction recipient data terms gas nonce price).sign chain.toNat key
          return ⟨"eth_sendRawTransaction", [Form.ofBytes raw]⟩) := if_pos fits
      rw [submitted, if_pos fits, pure_bind]
      change (Session.ofOutcome
        ((transaction recipient data terms gas nonce price).sign chain.toNat key) >>= _) = _
      cases (transaction recipient data terms gas nonce price).sign chain.toNat key <;> rfl
    · have abandoned : (own key).submission recipient data terms [gas, nonce, price, chain] =
          .aborted .chainIdTooLarge := if_neg fits
      rw [abandoned, if_neg fits]
      rfl

/-- How the submission of a transaction ends: the gathering fails, or there is nothing that can be
submitted, or the last request submits it. -/
theorem ends_transact {t : List (Request × Reply)} {y : Outcome ContractError Hash}
    (ends : (transact recipient data (account.options terms)).Ends t y) :
    ∃ prior x, Gathers (account.wants recipient data terms) prior x ∧
      match x with
      | .error e => t = prior ∧ y = .error e
      | .ok words =>
        match account.submission recipient data terms words with
        | .ok r => ∃ reply, t = prior ++ [(r, reply)] ∧ y = .ofExcept (readReply Form.hash? reply)
        | .error e => t = prior ∧ y = .error e
        | .aborted reason => t = prior ∧ y = .aborted reason := by
  rw [transact_eq] at ends
  obtain ⟨prior, after, z, rfl, gathered, ends⟩ := Session.ends_bind.1 ends
  obtain ⟨x, gathers, rfl⟩ := Gathers.of_ends gathered
  refine ⟨prior, x, gathers, ?_⟩
  cases x with
  | error e =>
    obtain ⟨rfl, rfl⟩ := ends
    exact ⟨List.append_nil _, rfl⟩
  | ok words =>
    obtain ⟨before, after, z, rfl, settled, ends⟩ := Session.ends_bind.1 ends
    obtain ⟨rfl, rfl⟩ := Session.ends_done.1 settled
    simp only
    cases submitted : account.submission recipient data terms words with
    | ok r =>
      rw [submitted] at ends
      obtain ⟨reply, rfl, rfl⟩ := ends_request.1 ends
      exact ⟨reply, rfl, rfl⟩
    | error e =>
      rw [submitted] at ends
      obtain ⟨rfl, rfl⟩ := ends
      exact ⟨List.append_nil _, rfl⟩
    | aborted reason =>
      rw [submitted] at ends
      obtain ⟨rfl, rfl⟩ := ends
      exact ⟨List.append_nil _, rfl⟩

/-- What a submission says, whoever signs it: the recipient, the data and the value that the estimate
was asked for, and the gas. -/
def Submits (gas : Word) (r : Request) : Prop :=
  match account with
  | remote sender =>
    ∃ fields : Json, r = ⟨"eth_sendTransaction", [fields]⟩ ∧
      fields.field? "gas" = some (Form.ofWord gas) ∧
      ∀ name ∈ ["from", "to", "data", "value"], fields.field? name =
        (Form.ofCall (some sender) recipient data terms.value).field? name
  | own key =>
    ∃ t chain raw, r = ⟨"eth_sendRawTransaction", [Form.ofBytes raw]⟩ ∧
      Transaction.sign t chain key = .ok raw ∧ t.gas = gas ∧ t.recipient = recipient ∧
      t.data = data ∧ t.value = terms.value.getD 0

variable {account : Account} {recipient : Address} {data : Bytes} {terms : TransactionTerms}

/-- What a key that is here submits is the settled transaction, signed. -/
theorem submission_own {key : SecretKey} {words : List Word} {r : Request}
    (submitted : (own key).submission recipient data terms words = .ok r) :
    ∃ raw, (transaction recipient data terms (words.getD 0 0) (words.getD 1 0)
        (words.getD 2 0)).sign (words.getD 3 0).toNat key = .ok raw ∧
      r = ⟨"eth_sendRawTransaction", [Form.ofBytes raw]⟩ := by
  unfold submission at submitted
  simp only at submitted
  split at submitted
  · cases signed : (transaction recipient data terms (words.getD 0 0) (words.getD 1 0)
        (words.getD 2 0)).sign (words.getD 3 0).toNat key with
    | ok raw =>
      rw [signed] at submitted
      cases submitted
      exact ⟨raw, rfl, rfl⟩
    | error e =>
      rw [signed] at submitted
      cases submitted
    | aborted reason =>
      rw [signed] at submitted
      cases submitted
  · cases submitted

theorem submits_of_submission {words : List Word} {r : Request}
    (submitted : account.submission recipient data terms words = .ok r) :
    account.Submits recipient data terms (words.getD 0 0) r := by
  cases account with
  | remote sender =>
    cases submitted
    exact ⟨_, rfl, field?_ofTransaction sender recipient data _ terms⟩
  | own key =>
    obtain ⟨raw, signed, same⟩ := submission_own submitted
    exact ⟨_, _, raw, same, signed, rfl, rfl, rfl, rfl⟩

private theorem wants_eq : ∃ others : Wants,
    account.wants recipient data terms =
      (terms.gas, account.estimate recipient data terms.value) :: others ∧
    ∀ want ∈ others, want.2.method ∉
      ["eth_estimateGas", "eth_sendTransaction", "eth_sendRawTransaction"] := by
  cases account with
  | remote sender => exact ⟨[], rfl, fun want listed => nomatch listed⟩
  | own key =>
    refine ⟨_, rfl, ?_⟩
    simp

/-- The requests for what is wanted: gas that is not given is estimated by the first of them, and by
no other, and none submits anything. -/
structure Preparation (account : Account) (recipient : Address) (data : Bytes)
    (terms : TransactionTerms) (prior : List (Request × Reply)) : Prop where
  estimated : terms.gas = none → ∃ reply rest,
    prior = (account.estimate recipient data terms.value, reply) :: rest ∧
      ∀ entry ∈ rest, entry.1.method ≠ "eth_estimateGas"
  unestimated : terms.gas ≠ none → ∀ entry ∈ prior, entry.1.method ≠ "eth_estimateGas"
  unsent : ∀ entry ∈ prior, entry.1.method ∉ ["eth_sendTransaction", "eth_sendRawTransaction"]

/-- How the requests for a transaction go, those for what is wanted first and the submission last. -/
structure Course (account : Account) (recipient : Address) (data : Bytes)
    (terms : TransactionTerms) (prior : List (Request × Reply)) (last : Option (Request × Reply))
    (outcome : Outcome ContractError Hash) : Prop
    extends account.Preparation recipient data terms prior where
  /-- As soon as an answer is an error or no word, that is the result. -/
  failed : ∀ entry ∈ prior, ∀ e, readReply Form.word? entry.2 = .error e →
    last = none ∧ outcome = .error e
  /-- The submission carries the gas that is given or estimated, and its answer is the result. -/
  submitted : ∀ r reply, last = some (r, reply) →
    outcome = .ofExcept (readReply Form.hash? reply) ∧
    ∃ gas, account.Submits recipient data terms gas r ∧
      (terms.gas = some gas ∨ terms.gas = none ∧ ∃ reply rest,
        prior = (account.estimate recipient data terms.value, reply) :: rest ∧
          readReply Form.word? reply = .ok gas)
  returned : ∀ h, outcome = .ok h → ∃ r j, last = some (r, .ok j) ∧ Form.hash? j = some h
  /-- Without a failure only a key that is here and cannot sign keeps from submitting. -/
  unsubmitted : last = none → (∃ entry ∈ prior, ∃ e, readReply Form.word? entry.2 = .error e) ∨
    (∃ key, account = .own key) ∧
      (outcome = .aborted .chainIdTooLarge ∨
        Transaction.form? terms.type = none ∧ outcome = .aborted .unsupportedTransactionType ∨
        outcome = .error (.node .internal))

section Gathered

variable {prior : List (Request × Reply)} {x : Except ContractError (List Word)}
  {words : List Word}

theorem preparation_of_gathers (gathers : Gathers (account.wants recipient data terms) prior x) :
    account.Preparation recipient data terms prior := by
  obtain ⟨others, wants, methods⟩ := @wants_eq account recipient data terms
  rw [wants] at gathers
  have inOrder := gathers.requests.1
  rw [Wants.requests_cons] at inOrder
  have other {rest : List (Request × Reply)} (inOrder : rest.map Prod.fst <+: others.requests)
      {entry : Request × Reply} (asked : entry ∈ rest) : entry.1.method ∉
        ["eth_estimateGas", "eth_sendTransaction", "eth_sendRawTransaction"] := by
    obtain ⟨given, wanted⟩ :=
      Wants.mem_requests (inOrder.subset (List.mem_map_of_mem (f := Prod.fst) asked))
    exact methods _ wanted
  cases given : terms.gas with
  | none =>
    rw [given] at gathers inOrder
    obtain ⟨reply, rest, rfl⟩ := gathers.exists_first
    have later : rest.map Prod.fst <+: others.requests := (List.cons_prefix_cons.1 inOrder).2
    refine ⟨fun _ => ⟨reply, rest, rfl, ?_⟩, fun some => absurd given some, ?_⟩
    · exact fun entry asked same => other later asked (same ▸ List.mem_cons_self)
    · intro entry asked
      rcases List.mem_cons.1 asked with rfl | asked
      · simp [estimate]
      · exact fun listed => other later asked (List.mem_cons_of_mem _ listed)
  | some gas =>
    rw [given] at inOrder
    refine ⟨fun none => (nomatch given.symm.trans none), fun _ => ?_, ?_⟩
    · exact fun entry asked same => other inOrder asked (same ▸ List.mem_cons_self)
    · exact fun entry asked listed => other inOrder asked (List.mem_cons_of_mem _ listed)

end Gathered

end Account

end Node

end NameRights
