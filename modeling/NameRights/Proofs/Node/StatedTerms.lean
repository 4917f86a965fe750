/- NameRights/Proofs/Node/StatedTerms
   digest: Which of a caller's terms stand in a transaction that is signed here. -/

import NameRights.Proofs.Node.LegacySubmission

set_option autoImplicit false
set_option relaxedAutoImplicit false

namespace NameRights

namespace Rlp

def word? (item : Rlp) : Option Word := item.number?.map (BitVec.ofNat 256)

def hash? : Rlp → Option Hash
  | .bytes b => if b.length = 32 then some (.ofBytes b) else none
  | .list _ => none

def place? : Rlp → Option AccessListItem
  | .list [address, .list keys] => do some ⟨← address.address?, ← keys.mapM hash?⟩
  | _ => none

def places? : Rlp → Option (List AccessListItem)
  | .list items => items.mapM place?
  | .bytes _ => none

private theorem word?_item (w : Word) : (Transaction.item w).word? = some w := by
  have read : (nat w.toNat).number? = some w.toNat := number?_eq_some.2 ⟨w.isLt, rfl⟩
  rw [word?, Transaction.item, read, Option.map_some, BitVec.ofNat_toNat, BitVec.setWidth_eq]

private theorem mapM_map {α β : Type} {write : α → β} {read : β → Option α}
    (back : ∀ a, read (write a) = some a) (list : List α) :
    (list.map write).mapM read = some list := by
  induction list with
  | nil => rfl
  | cons a list ih => simp [List.mapM_cons, back, ih]

private theorem places?_places (list : List AccessListItem) :
    (Transaction.places list).places? = some list := by
  have key (h : Hash) : (Rlp.bytes h.bytes).hash? = some h := by
    rw [hash?, if_pos h.length_bytes, Hash.ofBytes_bytes]
  refine mapM_map ?_ list
  intro access
  have address : (Rlp.bytes access.address.bytes).address? = some access.address :=
    address?_eq_some.2 rfl
  simp only [place?, address, mapM_map key]
  rfl

end Rlp

namespace TransactionForm

/-- The terms that have a place in a form, named as in a request. -/
def names : TransactionForm → List String
  | .legacy => ["to", "data", "gas", "value", "nonce", "gasPrice"]
  | .accessList => ["to", "data", "gas", "value", "nonce", "gasPrice", "accessList"]
  | .cappedFees =>
    ["to", "data", "gas", "value", "nonce", "maxFeePerGas", "maxPriorityFeePerGas", "accessList"]

def allNames : List String :=
  ["to", "data", "gas", "value", "nonce", "gasPrice", "maxFeePerGas", "maxPriorityFeePerGas",
    "accessList"]

end TransactionForm

/-- What the bytes of a transaction state. A term that has no place in its form is not given. -/
structure Stated where
  recipient : Address
  data : Bytes
  gas : Word
  terms : TransactionTerms

namespace Stated

def ofItems? : TransactionForm → List Rlp → Option Stated
  | .legacy, [nonce, price, gas, recipient, value, data, _, _, _] => do
    some {
      recipient := ← recipient.address?
      data := ← data.bytes?
      gas := ← gas.word?
      terms := { TransactionTerms.none with
        gasPrice := some (← price.word?)
        value := some (← value.word?)
        nonce := some (← nonce.word?) } }
  | .accessList, [_, nonce, price, gas, recipient, value, data, places, _, _, _] => do
    some {
      recipient := ← recipient.address?
      data := ← data.bytes?
      gas := ← gas.word?
      terms := { TransactionTerms.none with
        gasPrice := some (← price.word?)
        value := some (← value.word?)
        nonce := some (← nonce.word?)
        type := some 1
        accessList := some (← places.places?) } }
  | .cappedFees,
      [_, nonce, maxPriorityFee, maxFee, gas, recipient, value, data, places, _, _, _] => do
    some {
      recipient := ← recipient.address?
      data := ← data.bytes?
      gas := ← gas.word?
      terms := { TransactionTerms.none with
        value := some (← value.word?)
        nonce := some (← nonce.word?)
        maxFee := some (← maxFee.word?)
        maxPriorityFee := some (← maxPriorityFee.word?)
        type := some 2
        accessList := some (← places.places?) } }
  | _, _ => none

/-- The form of a transaction's bytes, by the mark in front, and its list. -/
def split : Bytes → TransactionForm × Bytes
  | [] => (.legacy, [])
  | b :: rest =>
    if b = 1 then (.accessList, rest) else if b = 2 then (.cappedFees, rest)
    else (.legacy, b :: rest)

def decode? (raw : Bytes) : Option Stated :=
  let (form, list) := split raw
  match Rlp.decode? list with
  | some (.list items) => ofItems? form items
  | _ => none

/-- The fields that a request for this transaction has. -/
def fields (sender : Address) (s : Stated) : Json :=
  Form.ofTransaction sender s.recipient s.data s.gas s.terms

end Stated

namespace Transaction

private def stated (t : Transaction) (form : TransactionForm) : Stated where
  recipient := t.recipient
  data := t.data
  gas := t.gas
  terms :=
    let common := { TransactionTerms.none with value := some t.value, nonce := some t.nonce }
    match form with
    | .legacy => { common with gasPrice := some t.gasPrice }
    | .accessList =>
      { common with
        gasPrice := some t.gasPrice
        type := some 1
        accessList := some t.accessList }
    | .cappedFees =>
      { common with
        maxFee := some t.gasPrice
        maxPriorityFee := some t.maxPriorityFee
        type := some 2
        accessList := some t.accessList }

private theorem split_mark {form : TransactionForm} {items : List Rlp}
    (small : (Rlp.list items).encode.length < Rlp.maxLength) :
    Stated.split (mark form ++ (Rlp.list items).encode) = (form, (Rlp.list items).encode) := by
  cases form with
  | accessList => rfl
  | cappedFees => rfl
  | legacy =>
    have size : (Rlp.encodeAll items).length < Rlp.maxLength := by
      rw [Rlp.encode, List.length_append] at small
      omega
    have front := Rlp.front?_front_list size (Rlp.encodeAll items)
    obtain ⟨b, rest, coded⟩ := List.exists_cons_of_ne_nil (Rlp.encode_ne_nil (.list items))
    rw [← Rlp.encode, coded] at front
    have one : b ≠ 1 := by
      rintro rfl
      simp [Rlp.front?] at front
    have two : b ≠ 2 := by
      rintro rfl
      simp [Rlp.front?] at front
    rw [mark, List.nil_append, coded, Stated.split, if_neg one, if_neg two]

private theorem decode?_signedBytes {t : Transaction} {chain : Nat} {form : TransactionForm}
    {s : Signed}
    (small : (t.signedBytes chain form s).length < Rlp.maxLength) :
    Stated.decode? (t.signedBytes chain form s) = some (t.stated form) := by
  have body : (Rlp.list (t.body chain form ++ signatureItems s)).encode.length < Rlp.maxLength := by
    rw [signedBytes, List.length_append] at small
    omega
  have recipient : (Rlp.bytes t.recipient.bytes).address? = some t.recipient :=
    Rlp.address?_eq_some.2 rfl
  rw [Stated.decode?, signedBytes, split_mark body]
  simp only [Rlp.decode?_encode body]
  cases form with
  | legacy =>
    simp only [Transaction.body, common, signatureItems, List.cons_append, List.nil_append,
      Stated.ofItems?, Rlp.word?_item, recipient, Rlp.bytes?]
    rfl
  | accessList =>
    simp only [Transaction.body, common, signatureItems, List.cons_append, List.nil_append,
      Stated.ofItems?, Rlp.word?_item, Rlp.places?_places, recipient, Rlp.bytes?]
    rfl
  | cappedFees =>
    simp only [Transaction.body, signatureItems, List.cons_append, List.nil_append,
      Stated.ofItems?, Rlp.word?_item, Rlp.places?_places, recipient, Rlp.bytes?]
    rfl

end Transaction

namespace Node

open Exchange

section Given

variable {sender recipient : Address} {data : Bytes} {key : SecretKey} {terms : TransactionTerms}
  {gas nonce : Word} {form : TransactionForm} {t : Transaction} {chain : Nat}

/-- A settled transaction keeps what a caller gives and its form has a place for. -/
structure Keeps (t : Transaction) (recipient : Address) (data : Bytes) (terms : TransactionTerms) :
    Prop extends t.Follows recipient data terms where
  price : ∀ p, Account.price terms = some p → t.gasPrice = p
  priority : hasCappedFees terms = true → ∀ p, terms.maxPriorityFee = some p → t.maxPriorityFee = p

private theorem keeps_of_settled
    (yielded : (settled sender recipient data key terms).Yields (t, chain)) :
    Keeps t recipient data terms := by
  have follows := follows_of_settled yielded
  unfold settled settle at yielded
  simp only [Session.yields_bind] at yielded
  obtain ⟨gas, -, nonce, -, price, priceYielded, chain', -, made⟩ := yielded
  cases made
  refine ⟨follows, ?_, ?_⟩
  · intro p given
    change (givenOr (Account.price terms) gasPrice).Yields price at priceYielded
    rw [given] at priceYielded
    exact eq_of_yields_givenOr priceYielded
  · intro capped p given
    simp only [capped, given, if_true, Option.getD_some]

private theorem asks_gather {wants : Wants} {r : Request} :
    (gather wants).Asks r ↔ r ∈ wants.requests := by
  induction wants with
  | nil => simp [gather, Wants.requests]
  | cons want wants ih =>
    obtain ⟨given, asked⟩ := want
    rw [gather, Session.asks_bind, Wants.requests_cons]
    simp only [Session.asks_bind, Session.asks_pure, and_false, exists_false, or_false, ih,
      exists_and_right, List.mem_append]
    cases given with
    | some w =>
      have ends : ∃ a, (givenOr (some w) (request asked.method asked.params Form.word?)).Yields a :=
        ⟨w, rfl⟩
      simp only [givenOr, Session.asks_pure, false_or, Option.isNone_some, Bool.false_eq_true,
        if_false, List.not_mem_nil]
      exact and_iff_right ends
    | none =>
      have ends : ∃ a, (request asked.method asked.params Form.word?).Yields a :=
        ⟨1, .ok (.text "0x1"), rfl⟩
      simp only [givenOr, Option.isNone_none, if_true, List.mem_singleton, asks_request]
      exact or_congr eq_comm (and_iff_right ends)

private theorem asks_gasPrice_iff :
    (transact recipient data (.signed key terms)).Asks ⟨"eth_gasPrice", []⟩ ↔
      Account.price terms = none := by
  have asked : (⟨"eth_gasPrice", []⟩ : Request) ∈
      ((Account.own key).wants recipient data terms).requests ↔ Account.price terms = none := by
    simp [Account.wants, Account.estimate, Wants.requests]
  have program := Account.transact_eq (.own key) recipient data terms
  rw [Account.options] at program
  rw [program, Session.asks_bind, asks_gather, asked, or_iff_left]
  rintro ⟨words, -, asked⟩
  cases made : (Account.own key).submission recipient data terms words with
  | ok r =>
    obtain ⟨t, chain, raw, rfl, -⟩ := Account.submits_of_submission made
    rw [made] at asked
    have other : "eth_sendRawTransaction" ≠ "eth_gasPrice" := by decide
    exact other (congrArg Request.method (asks_request.1 asked))
  | error e =>
    rw [made] at asked
    exact Session.asks_done _ _ asked
  | aborted reason =>
    rw [made] at asked
    exact Session.asks_done _ _ asked

/-- Whether a field of a request is in another record, with the same value. -/
def Carries (asked said : Json) (name : String) : Prop :=
  ∀ j, asked.field? name = some j → said.field? name = some j

private theorem fields_ofTransaction (sender recipient : Address) (data : Bytes) (gas : Word)
    (terms : TransactionTerms) :
    let j := Form.ofTransaction sender recipient data gas terms
    j.field? "to" = some (Form.ofAddress recipient) ∧ j.field? "data" = some (Form.ofBytes data) ∧
    j.field? "gas" = some (Form.ofWord gas) ∧ j.field? "value" = terms.value.map Form.ofWord ∧
    j.field? "nonce" = terms.nonce.map Form.ofWord ∧
    j.field? "gasPrice" = terms.gasPrice.map Form.ofWord ∧
    j.field? "maxFeePerGas" = terms.maxFee.map Form.ofWord ∧
    j.field? "maxPriorityFeePerGas" = terms.maxPriorityFee.map Form.ofWord ∧
    j.field? "accessList" = terms.accessList.map Form.ofAccessList := by
  simp [Json.field?, Form.ofTransaction, List.find?_append, find?_optional, Function.comp_def]

private theorem hasCappedFees_iff (typed : Transaction.form? terms.type = some form) :
    hasCappedFees terms = true ↔ form = .cappedFees := by
  unfold Transaction.form? at typed
  unfold hasCappedFees
  cases given : terms.type with
  | none =>
    rw [given] at typed
    cases typed
    decide
  | some n =>
    rw [given] at typed
    simp only at typed
    split at typed
    · rename_i zero
      cases typed
      simp [zero]
    · split at typed
      · rename_i one
        cases typed
        simp [one]
      · split at typed
        · rename_i two
          cases typed
          simp [two]
        · cases typed

private theorem carries_iff_of_absent {asked said : Json} {name : String}
    (absent : said.field? name = none) : Carries asked said name ↔ asked.field? name = none := by
  unfold Carries
  rw [absent]
  constructor
  · intro carried
    cases given : asked.field? name with
    | none => rfl
    | some j => cases carried j given
  · intro none j given
    cases none.symm.trans given

private theorem carries_of_eq {asked said : Json} {name : String}
    (same : said.field? name = asked.field? name) : Carries asked said name :=
  fun _ listed => same.trans listed

private theorem carries_of_agree {α : Type} {write : α → Json} {asked said : Json} {name : String}
    {given : Option α} {a : α} (request : asked.field? name = given.map write)
    (stated : said.field? name = some (write a)) (agree : ∀ b, given = some b → a = b) :
    Carries asked said name := by
  intro j listed
  rw [request] at listed
  obtain ⟨b, known, rfl⟩ := Option.map_eq_some_iff.1 listed
  rw [stated, agree b known]

private theorem field?_stated_of_unplaced (t : Transaction) {name : String}
    (listed : name ∈ TransactionForm.allNames) (unplaced : name ∉ form.names) :
    ((t.stated form).fields sender).field? name = none := by
  obtain ⟨-, -, -, -, -, price, cap, priority, places⟩ :=
    fields_ofTransaction sender t.recipient t.data t.gas (t.stated form).terms
  cases form with
  | legacy =>
    have other : name = "maxFeePerGas" ∨ name = "maxPriorityFeePerGas" ∨ name = "accessList" := by
      simp only [TransactionForm.allNames, TransactionForm.names, List.mem_cons] at listed unplaced
      grind
    rcases other with rfl | rfl | rfl
    · exact cap
    · exact priority
    · exact places
  | accessList =>
    have other : name = "maxFeePerGas" ∨ name = "maxPriorityFeePerGas" := by
      simp only [TransactionForm.allNames, TransactionForm.names, List.mem_cons] at listed unplaced
      grind
    rcases other with rfl | rfl
    · exact cap
    · exact priority
  | cappedFees =>
    have other : name = "gasPrice" := by
      simp only [TransactionForm.allNames, TransactionForm.names, List.mem_cons] at listed unplaced
      grind
    rw [other]
    exact price

private theorem Keeps.carries_common (keeps : Keeps t recipient data terms)
    (paid : terms.gas = some gas) {name : String}
    (listed : name ∈ ["to", "data", "gas", "value", "nonce"]) :
    Carries (Form.ofTransaction sender recipient data gas terms) ((t.stated form).fields sender)
      name := by
  obtain ⟨recipientAsked, dataAsked, gasAsked, valueAsked, nonceAsked, -⟩ :=
    fields_ofTransaction sender recipient data gas terms
  obtain ⟨recipientSaid, dataSaid, gasSaid, valueSaid, nonceSaid, -⟩ :=
    fields_ofTransaction sender t.recipient t.data t.gas (t.stated form).terms
  have value : (t.stated form).terms.value = some t.value := by cases form <;> rfl
  have nonce : (t.stated form).terms.nonce = some t.nonce := by cases form <;> rfl
  rw [value] at valueSaid
  rw [nonce] at nonceSaid
  simp only [List.mem_cons, List.not_mem_nil, or_false] at listed
  rcases listed with rfl | rfl | rfl | rfl | rfl
  · apply carries_of_eq
    rw [recipientAsked, ← keeps.recipient]
    exact recipientSaid
  · apply carries_of_eq
    rw [dataAsked, ← keeps.data]
    exact dataSaid
  · apply carries_of_eq
    rw [gasAsked, ← keeps.gas gas paid]
    exact gasSaid
  · refine carries_of_agree valueAsked valueSaid ?_
    intro w given
    rw [keeps.value, given]
    rfl
  · exact carries_of_agree nonceAsked nonceSaid keeps.nonce

private theorem Keeps.carries_of_placed (keeps : Keeps t recipient data terms)
    (paid : terms.gas = some gas) (typed : Transaction.form? terms.type = some form)
    {name : String} (placed : name ∈ form.names) :
    Carries (Form.ofTransaction sender recipient data gas terms) ((t.stated form).fields sender)
      name := by
  by_cases listed : name ∈ ["to", "data", "gas", "value", "nonce"]
  · exact keeps.carries_common paid listed
  obtain ⟨-, -, -, -, -, priceAsked, capAsked, priorityAsked, placesAsked⟩ :=
    fields_ofTransaction sender recipient data gas terms
  obtain ⟨-, -, -, -, -, priceSaid, capSaid, prioritySaid, placesSaid⟩ :=
    fields_ofTransaction sender t.recipient t.data t.gas (t.stated form).terms
  have price (uncapped : form ≠ .cappedFees) (p : Word) (given : terms.gasPrice = some p) :
      t.gasPrice = p := by
    have plain : hasCappedFees terms = false :=
      Bool.eq_false_iff.2 fun capped => uncapped ((hasCappedFees_iff typed).1 capped)
    apply keeps.price
    rw [Account.price, plain, given]
    rfl
  have places (l : List AccessListItem) (given : terms.accessList = some l) : t.accessList = l := by
    rw [keeps.accessList, given]
    rfl
  cases form with
  | legacy =>
    have own : name = "gasPrice" := by
      simp only [TransactionForm.names, List.mem_cons] at placed listed
      grind
    rw [own]
    exact carries_of_agree priceAsked priceSaid (price (by decide))
  | accessList =>
    have own : name = "gasPrice" ∨ name = "accessList" := by
      simp only [TransactionForm.names, List.mem_cons] at placed listed
      grind
    rcases own with rfl | rfl
    · exact carries_of_agree priceAsked priceSaid (price (by decide))
    · exact carries_of_agree placesAsked placesSaid places
  | cappedFees =>
    have capped : hasCappedFees terms = true := (hasCappedFees_iff typed).2 rfl
    have cap (p : Word) (given : terms.maxFee = some p) : t.gasPrice = p := by
      apply keeps.price
      rw [Account.price, capped, given]
      rfl
    have own : name = "maxFeePerGas" ∨ name = "maxPriorityFeePerGas" ∨ name = "accessList" := by
      simp only [TransactionForm.names, List.mem_cons] at placed listed
      grind
    rcases own with rfl | rfl | rfl
    · exact carries_of_agree capAsked capSaid cap
    · exact carries_of_agree priorityAsked prioritySaid (keeps.priority capped)
    · exact carries_of_agree placesAsked placesSaid places

private theorem Keeps.carries_iff (keeps : Keeps t recipient data terms)
    (paid : terms.gas = some gas)
    (typed : Transaction.form? terms.type = some form) :
    let request := Form.ofTransaction sender recipient data gas terms
    ∀ name ∈ TransactionForm.allNames, Carries request ((t.stated form).fields sender) name ↔
      request.field? name = none ∨ name ∈ form.names := by
  intro request name listed
  by_cases placed : name ∈ form.names
  · exact iff_of_true (keeps.carries_of_placed paid typed placed) (Or.inr placed)
  · have absent : ((t.stated form).fields sender).field? name = none :=
      field?_stated_of_unplaced t listed placed
    exact (carries_iff_of_absent absent).trans (or_iff_left placed).symm

private theorem asks_unsigned_iff (paid : terms.gas = some gas) (sender recipient : Address)
    (data : Bytes) (r : Request) :
    (transact recipient data (.unsigned sender terms)).Asks r ↔
      r = ⟨"eth_sendTransaction", [Form.ofTransaction sender recipient data gas terms]⟩ := by
  rw [transact]
  simp only [TransactOptions.unsigned, paid, givenOr, pure_bind, asks_request]
  exact eq_comm

/-- One caller's terms, gas among them, on the two ways to submit a transaction: a node that signs
is asked for one with all that is given. What a key that is here signs has a given term exactly if
the type's form has a place for it, and a price that the node is asked for if none given has one. -/
theorem transact_states (paid : terms.gas = some gas)
    (typed : Transaction.form? terms.type = some form) (sender recipient : Address) (data : Bytes)
    (key : SecretKey) :
    let request := Form.ofTransaction sender recipient data gas terms
    (∀ r, (transact recipient data (.unsigned sender terms)).Asks r ↔
      r = ⟨"eth_sendTransaction", [request]⟩) ∧
    ((transact recipient data (.signed key terms)).Asks ⟨"eth_gasPrice", []⟩ ↔
      Account.price terms = none) ∧
    ∀ raw, (transact recipient data (.signed key terms)).Asks (submission raw) →
      raw.length < Rlp.maxLength →
      ∃ stated, Stated.decode? raw = some stated ∧
        ∀ name ∈ TransactionForm.allNames, Carries request (stated.fields sender) name ↔
          request.field? name = none ∨ name ∈ form.names := by
  intro request
  refine ⟨asks_unsigned_iff paid sender recipient data, asks_gasPrice_iff, ?_⟩
  intro raw asked small
  obtain ⟨t, chain, yielded, made⟩ := asks_submission_iff.1 asked
  have keeps := keeps_of_settled yielded
  obtain ⟨form', s, typed', -, rfl⟩ := Transaction.sign_eq_ok made
  rw [keeps.type, typed] at typed'
  cases typed'
  exact ⟨t.stated form, Transaction.decode?_signedBytes small, keeps.carries_iff paid typed⟩

end Given

private def untypedTerms : TransactionTerms :=
  { TransactionTerms.none with
    gas := some 21000
    value := some 5
    nonce := some 1
    maxFee := some 3
    maxPriorityFee := some 2 }

/-- Without a type, caps of fees are left out, and a price is asked for. -/
theorem transact_states_untyped :
    untypedTerms.gas = some 21000 ∧ Transaction.form? untypedTerms.type = some .legacy ∧
    (transact .zero [42] (.signed secondKey untypedTerms)).Asks ⟨"eth_gasPrice", []⟩ ∧
    ∃ raw, (transact .zero [42] (.signed secondKey untypedTerms)).Asks (submission raw) ∧
      raw.length < Rlp.maxLength ∧
      ∃ stated, Stated.decode? raw = some stated ∧
        ∀ name ∈ ["maxFeePerGas", "maxPriorityFeePerGas"],
          ¬ Carries (Form.ofTransaction .zero .zero [42] 21000 untypedTerms) (stated.fields .zero)
            name := by
  have given : untypedTerms.gas = some 21000 := rfl
  have typed : Transaction.form? untypedTerms.type = some .legacy := rfl
  obtain ⟨-, priced, states⟩ := transact_states given typed .zero .zero [42] secondKey
  obtain ⟨σ, signed, parity⟩ := Secp256k1.sign_plain_iff.2 signsPlainly_paid
  let t := Account.transaction .zero [42] untypedTerms 21000 1 1
  have same : t.envelope 1 0 0 = paid := rfl
  rw [← same] at signed
  have made : t.sign 1 secondKey = .ok (t.envelope (35 + 2 * 1 + σ.recovery) σ.r σ.s).encode :=
    Transaction.sign_legacy typed signed (by omega)
  have yielded : (settled secondKey.address .zero [42] secondKey untypedTerms).Yields (t, 1) :=
    ⟨.ok (.text "0x1"), .ok (.text "0x1"), rfl⟩
  have asked := asks_submission_iff.2 ⟨t, 1, yielded, made⟩
  have small : (t.envelope (35 + 2 * 1 + σ.recovery) σ.r σ.s).encode.length < Rlp.maxLength := by
    have length := (t.envelope (35 + 2 * 1 + σ.recovery) σ.r σ.s).length_encode_le
    have room : 1 + 574 < Rlp.maxLength := by decide
    exact Nat.lt_of_le_of_lt length room
  obtain ⟨stated, read, carries⟩ := states _ asked small
  refine ⟨given, typed, priced.2 rfl, _, asked, small, stated, read, ?_⟩
  have lost {name : String} (listed : name ∈ TransactionForm.allNames)
      (given : (Form.ofTransaction .zero .zero [42] 21000 untypedTerms).field? name ≠ none)
      (unplaced : name ∉ TransactionForm.legacy.names) :
      ¬ Carries (Form.ofTransaction .zero .zero [42] 21000 untypedTerms) (stated.fields .zero)
        name := by
    intro carried
    rcases (carries name listed).1 carried with none | placed
    · exact given none
    · exact unplaced placed
  obtain ⟨-, -, -, -, -, -, cap, priority, -⟩ :=
    fields_ofTransaction .zero .zero [42] 21000 untypedTerms
  intro name listed
  rcases List.mem_cons.1 listed with rfl | listed
  · exact lost (by decide) (cap ▸ Option.some_ne_none _) (by decide)
  · rw [List.mem_singleton.1 listed]
    exact lost (by decide) (priority ▸ Option.some_ne_none _) (by decide)

end Node

end NameRights
