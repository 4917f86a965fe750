/- NameRights/Proofs/Node/TypedSubmission
   digest: What a local key submits for a transaction with a type, and what is wrong with it. -/

import NameRights.Node.Exchange
import NameRights.Proofs.Crypto.Signature
import NameRights.Proofs.HexText
import NameRights.Proofs.Node.RlpBody
import NameRights.Proofs.Session.Asking

set_option autoImplicit false
set_option relaxedAutoImplicit false

namespace NameRights

namespace Exchange

variable {α : Type}

theorem asks_request {method : String} {params : List Json} {read : Json → Option α}
    {r : Request} : (request method params read).Asks r ↔ ⟨method, params⟩ = r := by
  unfold request
  rw [Session.asks_ask]
  constructor
  · rintro (same | ⟨reply, asked⟩)
    · exact same
    · cases reply with
      | error e => exact absurd asked (Session.asks_done _ _)
      | ok j =>
        simp only at asked
        split at asked
        · exact absurd asked (Session.asks_done _ _)
        · exact absurd asked (Session.asks_done _ _)
  · exact Or.inl

end Exchange

namespace Transaction

/-- The bytes of a transaction with three numbers in place of the signature. -/
def coded (t : Transaction) (chain : Nat) (form : TransactionForm) (y r s : Nat) : Bytes :=
  mark form ++ (Rlp.list (t.body chain form ++ [.nat y, .nat r, .nat s])).encode

/-- The hash that the signature of a transaction belongs to. -/
def digest (t : Transaction) (chain : Nat) (form : TransactionForm) : Bytes :=
  Keccak.hash (t.signingBytes chain form)

/-- Whether bytes are a transaction that a key has signed: behind the items of the transaction
stand a parity and two numbers from which, with the transaction's hash, the key's address is
recovered. -/
def IsSigned (t : Transaction) (chain : Nat) (form : TransactionForm) (key : SecretKey)
    (raw : Bytes) : Prop :=
  ∃ y r s, y ≤ 1 ∧ raw = t.coded chain form y r s ∧
    (Secp256k1.recover? (t.digest chain form) ⟨r, s, y⟩).map Address.ofPoint = some key.address

/-- The terms that a settled transaction keeps. -/
structure Follows (t : Transaction) (recipient : Address) (data : Bytes)
    (terms : TransactionTerms) : Prop where
  recipient : t.recipient = recipient
  data : t.data = data
  type : t.type = terms.type
  value : t.value = terms.value.getD 0
  accessList : t.accessList = terms.accessList.getD []
  nonce : ∀ n, terms.nonce = some n → t.nonce = n
  gas : ∀ g, terms.gas = some g → t.gas = g

private theorem coded_ne (t : Transaction) (chain : Nat) (form : TransactionForm)
    {y v r s r' s' : Nat}
    (parity : y ≤ 1) (low : 27 ≤ v) (high : v < 128) :
    t.coded chain form y r s ≠ t.coded chain form v r' s' := by
  unfold coded
  intro same
  exact Rlp.encodeAll_parity_ne parity low high _ _
    (Rlp.encodeAll_eq_of_same_start (List.append_cancel_left same))

private theorem not_isSigned_of_moved (t : Transaction) (chain : Nat) (form : TransactionForm)
    (key : SecretKey) {σ : Secp256k1.Signature} (bounded : σ.Bounded) :
    ¬ t.IsSigned chain form key (t.coded chain form (27 + σ.recovery) σ.r σ.s) := by
  rintro ⟨y, r, s, parity, same, -⟩
  have mark := bounded.2.2
  exact t.coded_ne chain form parity (by omega : 27 ≤ 27 + σ.recovery) (by omega) same.symm

private theorem signature_typed (t : Transaction) (chain : Nat) (key : SecretKey)
    {form : TransactionForm} (notLegacy : form ≠ .legacy) :
    t.signature chain form key = key.signMessage (t.digest chain form) := by
  unfold signature digest
  cases form with
  | legacy => exact absurd rfl notLegacy
  | accessList => simp only
  | cappedFees => simp only

/-- A signature in its carried form is coded as its numbers, the mark moved up by a base. -/
theorem signedBytes_eq (t : Transaction) (chain : Nat) (form : TransactionForm) (base : Nat)
    {σ : Secp256k1.Signature} (bounded : σ.Bounded) :
    t.signedBytes chain form
      ⟨.ofBytes (Bytes.ofNat 32 σ.r), .ofBytes (Bytes.ofNat 32 σ.s), σ.recovery + base⟩ =
    t.coded chain form (base + σ.recovery) σ.r σ.s := by
  simp only [signedBytes, signatureItems, coded, Hash.toNat_ofBytes_ofNat bounded.1,
    Hash.toNat_ofBytes_ofNat bounded.2.1, Nat.add_comm base]

/-- A typed transaction carries the signature of its hash as a message, with 27 added to the mark
of the nonce's point. -/
private theorem sign_typed {t : Transaction} {chain : Nat} {key : SecretKey}
    {form : TransactionForm}
    {raw : Bytes} (typed : form? t.type = some form) (notLegacy : form ≠ .legacy) :
    t.sign chain key = .ok raw ↔ ∃ σ,
      Secp256k1.sign key.scalar (SecretKey.messageHash (t.digest chain form)) = some σ ∧
      raw = t.coded chain form (27 + σ.recovery) σ.r σ.s := by
  have size := SecretKey.length_messageHash (t.digest chain form)
  rw [sign, typed]
  simp only [signature_typed t chain key notLegacy, SecretKey.signMessage]
  cases made : key.signBytes (SecretKey.messageHash (t.digest chain form)) 27 with
  | error fault =>
    simp only [reduceCtorEq, false_iff]
    rintro ⟨σ, found, -⟩
    rw [(SecretKey.signBytes_eq_ok size).2 ⟨σ, found, rfl⟩] at made
    cases made
  | ok s =>
    obtain ⟨σ, found, rfl⟩ := (SecretKey.signBytes_eq_ok size).1 made
    have bounded := Secp256k1.bounded_of_sign found
    have fits : σ.recovery + 27 < UInt64.size :=
      Nat.lt_trans (Nat.add_lt_add_right bounded.2.2 27) (by decide)
    simp only [if_pos fits, signedBytes_eq t chain form 27 bounded, Outcome.ok.injEq, found,
      Option.some.injEq, exists_eq_left', eq_comm]

end Transaction

namespace Node

open Exchange

/-- The request that submits the bytes of a transaction. -/
def submission (raw : Bytes) : Request := ⟨"eth_sendRawTransaction", [Form.ofBytes raw]⟩

/-- The part of a transaction's program that settles its terms, gas first. -/
def settled (sender recipient : Address) (data : Bytes) (key : SecretKey)
    (terms : TransactionTerms) : Exchange (Transaction × Nat) := do
  let gas ← givenOr terms.gas (estimateGas sender recipient data terms.value)
  settle recipient data key gas terms

private theorem submission_injective {raw raw' : Bytes} (same : submission raw = submission raw') :
    raw = raw' := by
  simp only [submission, Form.ofBytes, Request.mk.injEq, List.cons.injEq, Json.text.injEq,
    true_and, and_true] at same
  exact Hex.text_injective same

section Settling

variable {α : Type} {raw : Bytes}

private theorem not_asks_request {method : String} {params : List Json} {read : Json → Option α}
    (other : method ≠ "eth_sendRawTransaction") :
    ¬ (request method params read).Asks (submission raw) := by
  intro asked
  exact other (congrArg Request.method (asks_request.1 asked))

private theorem not_asks_givenOr {given : Option α} {ask : Exchange α}
    (other : ¬ ask.Asks (submission raw)) : ¬ (givenOr given ask).Asks (submission raw) := by
  cases given with
  | none => exact other
  | some a => exact Session.asks_pure a _

theorem eq_of_yields_givenOr {a b : α} {ask : Exchange α}
    (yielded : (givenOr (some a) ask).Yields b) : b = a :=
  ((Session.yields_pure a b).1 yielded).symm

private theorem not_asks_chainId : ¬ chainId.Asks (submission raw) := by
  unfold chainId
  rw [Session.asks_bind]
  rintro (asked | ⟨w, -, asked⟩)
  · exact not_asks_request (by decide) asked
  · split at asked
    · exact Session.asks_pure _ _ asked
    · exact Session.asks_done _ _ asked

private theorem not_asks_settled (sender recipient : Address) (data : Bytes) (key : SecretKey)
    (terms : TransactionTerms) :
    ¬ (settled sender recipient data key terms).Asks (submission raw) := by
  unfold settled settle
  simp only [Session.asks_bind]
  rintro (asked | ⟨gas, -, asked | ⟨nonce, -, asked | ⟨price, -, asked | ⟨chain, -, asked⟩⟩⟩⟩)
  · exact not_asks_givenOr (not_asks_request (by decide)) asked
  · exact not_asks_givenOr (not_asks_request (by decide)) asked
  · exact not_asks_givenOr (not_asks_request (by decide)) asked
  · exact not_asks_chainId asked
  · exact Session.asks_pure _ _ asked

/-- The terms a caller gives are those of the transaction, whatever the node answers. -/
theorem follows_of_settled {sender recipient : Address} {data : Bytes} {key : SecretKey}
    {terms : TransactionTerms} {t : Transaction} {chain : Nat}
    (yielded : (settled sender recipient data key terms).Yields (t, chain)) :
    t.Follows recipient data terms := by
  unfold settled settle at yielded
  simp only [Session.yields_bind] at yielded
  obtain ⟨gas, gasYielded, nonce, nonceYielded, price, -, chain', -, made⟩ := yielded
  cases made
  refine ⟨rfl, rfl, rfl, rfl, rfl, ?_, ?_⟩
  · intro n given
    rw [given] at nonceYielded
    exact eq_of_yields_givenOr nonceYielded
  · intro g given
    rw [given] at gasYielded
    exact eq_of_yields_givenOr gasYielded

end Settling

theorem asks_submission_iff {sender recipient : Address} {data : Bytes} {key : SecretKey}
    {terms : TransactionTerms} {raw : Bytes} :
    (transact recipient data ⟨sender, some key, terms⟩).Asks (submission raw) ↔
      ∃ t chain, (settled sender recipient data key terms).Yields (t, chain) ∧
        t.sign chain key = .ok raw := by
  have first : ¬ (settled sender recipient data key terms).Asks (submission raw) :=
    not_asks_settled sender recipient data key terms
  unfold settled at first ⊢
  unfold transact
  simp only [Session.asks_bind, Session.yields_bind, not_or, not_exists, not_and] at first ⊢
  constructor
  · rintro (asked | ⟨gas, gasYielded, asked | ⟨⟨t, chain⟩, yielded, asked | ⟨raw', made, asked⟩⟩⟩)
    · exact absurd asked first.1
    · exact absurd asked (first.2 gas gasYielded)
    · exact absurd asked (Session.asks_done _ _)
    · have same := submission_injective (asks_request.1 asked)
      subst same
      exact ⟨t, chain, ⟨gas, gasYielded, yielded⟩, (Session.yields_done _ _).1 made⟩
  · rintro ⟨t, chain, ⟨gas, gasYielded, yielded⟩, made⟩
    refine Or.inr ⟨gas, gasYielded, Or.inr ⟨(t, chain), yielded, Or.inr ⟨raw, ?_, ?_⟩⟩⟩
    · exact (Session.yields_done _ _).2 made
    · exact asks_request.2 rfl

/-- What a local key submits under a type is the settled transaction with the key's signature of
its hash as a message, and 27 or more in the place of the parity; so it is never the signed
transaction. -/
theorem asks_submission_typed {terms : TransactionTerms} {form : TransactionForm}
    (typed : Transaction.form? terms.type = some form) (notLegacy : form ≠ .legacy)
    (sender recipient : Address) (data : Bytes) (key : SecretKey) (raw : Bytes) :
    (transact recipient data ⟨sender, some key, terms⟩).Asks (submission raw) ↔
      ∃ t chain σ, (settled sender recipient data key terms).Yields (t, chain) ∧
        t.Follows recipient data terms ∧
        Secp256k1.sign key.scalar (SecretKey.messageHash (t.digest chain form)) = some σ ∧
        raw = t.coded chain form (27 + σ.recovery) σ.r σ.s ∧
        ¬ t.IsSigned chain form key raw := by
  rw [asks_submission_iff]
  constructor
  · rintro ⟨t, chain, yielded, made⟩
    have follows := follows_of_settled yielded
    have keeps : Transaction.form? t.type = some form := by
      rw [follows.type]
      exact typed
    obtain ⟨σ, found, rfl⟩ := (Transaction.sign_typed keeps notLegacy).1 made
    exact ⟨t, chain, σ, yielded, follows, found, rfl,
      t.not_isSigned_of_moved chain form key (Secp256k1.bounded_of_sign found)⟩
  · rintro ⟨t, chain, σ, yielded, follows, found, same, -⟩
    have keeps : Transaction.form? t.type = some form := by
      rw [follows.type]
      exact typed
    exact ⟨t, chain, yielded, (Transaction.sign_typed keeps notLegacy).2 ⟨σ, found, same⟩⟩

private def firstKey : SecretKey := ⟨1, by decide, by decide⟩

private def cappedTerms : TransactionTerms :=
  { TransactionTerms.none with
    gas := some 21000, gasPrice := some 7, nonce := some 0, type := some 2 }

private def cappedTransaction : Transaction where
  recipient := .zero
  nonce := 0
  gas := 21000
  gasPrice := 7
  value := 0
  data := []
  type := some 2
  accessList := []
  maxPriorityFee := 7

theorem asks_submission_capped :
    Transaction.form? cappedTerms.type = some .cappedFees ∧
    TransactionForm.cappedFees ≠ .legacy ∧
    (settled .zero .zero [] firstKey cappedTerms).Yields (cappedTransaction, 1) ∧
    ∀ raw, (transact .zero [] ⟨.zero, some firstKey, cappedTerms⟩).Asks (submission raw) ↔
      ∃ t chain σ, (settled .zero .zero [] firstKey cappedTerms).Yields (t, chain) ∧
        t.Follows .zero [] cappedTerms ∧
        Secp256k1.sign 1 (SecretKey.messageHash (t.digest chain .cappedFees)) = some σ ∧
        raw = t.coded chain .cappedFees (27 + σ.recovery) σ.r σ.s ∧
        ¬ t.IsSigned chain .cappedFees firstKey raw := by
  refine ⟨rfl, by decide, ?_, ?_⟩
  · exact ⟨.ok (.text "0x1"), rfl⟩
  · exact asks_submission_typed rfl (by decide) .zero .zero [] firstKey

end Node

end NameRights
