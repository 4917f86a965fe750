/- NameRights/Proofs/Feed/Supply
   digest: A list of logs that is sent through a feed, and the records that it comes to. -/

import NameRights.Event.Kind
import NameRights.Proofs.Feed.Ledger

set_option autoImplicit false
set_option relaxedAutoImplicit false

namespace NameRights

section Reading

variable {kind : EventKind} {event : Abi.Event}

/-- The records of logs, in order, up to the first log that is none, and the fault of that one. -/
def EventKind.readThrough (kind : EventKind) (event : Abi.Event) :
    List Log → List kind.Record × Option ContractError
  | [] => ([], none)
  | log :: logs =>
    match kind.decode event log with
    | .ok record => (record :: (readThrough kind event logs).1, (readThrough kind event logs).2)
    | .error e => ([], some e)

private theorem EventKind.readThrough_append {front : List Log} {records : List kind.Record}
    (decoded : front.map (kind.decode event) = records.map .ok) (rest : List Log) :
    kind.readThrough event (front ++ rest) =
      (records ++ (kind.readThrough event rest).1, (kind.readThrough event rest).2) := by
  induction front generalizing records with
  | nil =>
    have none : records = [] := by simpa using decoded.symm
    rw [none]
    rfl
  | cons log front ih =>
    cases records with
    | nil => cases decoded
    | cons record records =>
      have first : kind.decode event log = .ok record := (List.cons.inj decoded).1
      have others := ih (List.cons.inj decoded).2
      rw [List.cons_append, readThrough, first]
      simp only [others, List.cons_append]

theorem EventKind.readThrough_all {logs : List Log} {records : List kind.Record}
    (decoded : logs.map (kind.decode event) = records.map .ok) :
    kind.readThrough event logs = (records, none) := by
  have through := readThrough_append decoded []
  rw [List.append_nil] at through
  rw [through, readThrough, List.append_nil]

/-- Logs that are records in front of one that is none, whatever comes behind it. -/
theorem EventKind.readThrough_until {sent logs : List Log} {records : List kind.Record} {log : Log}
    {e : ContractError} (begun : sent <+: logs)
    (decoded : (sent.take records.length).map (kind.decode event) = records.map .ok)
    (next : sent[records.length]? = some log) (broken : kind.decode event log = .error e) :
    kind.readThrough event logs = (records, some e) := by
  obtain ⟨more, rfl⟩ := begun
  obtain ⟨within, rfl⟩ := List.getElem?_eq_some_iff.1 next
  have split := List.take_append_drop records.length sent
  have rest := List.drop_eq_getElem_cons within
  rw [← split, List.append_assoc, readThrough_append decoded, rest, List.cons_append, readThrough,
    broken, List.append_nil]

end Reading

namespace Feed

/-- What a supplier of logs does next, and the logs that it has yet to send. It sends them in order,
each as soon as there is room or nobody receives any more; then it lets go of the sending end; then
the producer ends well. -/
def supply? (rest : List Log) (feed : Feed) : Option (Act × List Log) :=
  match rest with
  | log :: rest => if (feed.logs.offer log).1 = .full then none else some (.offer log, rest)
  | [] =>
    if feed.logs.hasSender then some (.letGo, [])
    else if feed.subscription.isRunning then some (.exit (.ok ()), [])
    else none

variable {feed : Feed} {rest after : List Log} {act : Act}

theorem supply?_cases (supplied : feed.supply? rest = some (act, after)) :
    (∃ log, rest = log :: after ∧ act = .offer log ∧ (feed.logs.offer log).1 ≠ .full) ∨
    (rest = [] ∧ after = [] ∧ act = .letGo ∧ feed.logs.hasSender = true) ∨
    (rest = [] ∧ after = [] ∧ act = .exit (.ok ()) ∧ feed.logs.hasSender = false ∧
      feed.subscription.isRunning = true) := by
  unfold supply? at supplied
  split at supplied
  · rename_i log rest
    split at supplied
    · cases supplied
    · rename_i room
      cases supplied
      exact Or.inl ⟨log, rfl, rfl, room⟩
  · split at supplied
    · rename_i sender
      cases supplied
      exact Or.inr (Or.inl ⟨rfl, rfl, rfl, sender⟩)
    · rename_i closed
      split at supplied
      · rename_i running
        cases supplied
        exact Or.inr (Or.inr ⟨rfl, rfl, rfl, by simpa using closed, running⟩)
      · cases supplied

theorem supply?_eq_none (held : feed.logs.hasReceiver = true) (capacity : 0 < feed.logs.capacity)
    (sender : rest ≠ [] → feed.logs.hasSender = true) (empty : feed.logs.items = [])
    (waits : feed.supply? rest = none) :
    rest = [] ∧ feed.logs.hasSender = false ∧ feed.subscription.isRunning = false := by
  cases rest with
  | nil =>
    cases open_ : feed.logs.hasSender with
    | true => simp [supply?, open_] at waits
    | false =>
      cases running : feed.subscription.isRunning with
      | true => simp [supply?, open_, running] at waits
      | false => exact ⟨rfl, rfl, rfl⟩
  | cons log rest =>
    have open_ : feed.logs.hasSender = true := sender (List.cons_ne_nil _ _)
    have room : feed.logs.hasRoom = true := by
      simp only [Channel.hasRoom, empty, List.length_nil, decide_eq_true_eq]
      exact capacity
    simp [supply?, Channel.offer, open_, held, room] at waits

theorem accepted_supply {l : Ledger} (supplied : feed.supply? rest = some (act, after))
    (sender : rest ≠ [] → feed.logs.hasSender = true)
    (held : rest ≠ [] → feed.logs.hasReceiver = true) :
    (l.note feed act).accepted ++ after = l.accepted ++ rest := by
  rcases supply?_cases supplied with ⟨log, rfl, rfl, room⟩ | ⟨rfl, rfl, rfl, -⟩ |
    ⟨rfl, rfl, rfl, -, running⟩
  · have open_ := sender (List.cons_ne_nil _ _)
    have attached := held (List.cons_ne_nil _ _)
    have accepted : (feed.logs.offer log).1 = .accepted := by
      simp only [Channel.offer, open_, attached, Bool.not_true, Bool.or_self, Bool.false_eq_true,
        if_false] at room ⊢
      split
      · rfl
      · rename_i full
        rw [if_neg full] at room
        exact absurd rfl room
    simp only [Ledger.note, if_pos accepted, List.append_assoc, List.singleton_append]
  · rfl
  · simp only [Ledger.note, running, if_true]

theorem sender_supply (supplied : feed.supply? rest = some (act, after))
    (sender : rest ≠ [] → feed.logs.hasSender = true) :
    after ≠ [] → (feed.enact act).logs.hasSender = true := by
  intro more
  rcases supply?_cases supplied with ⟨log, rfl, rfl, -⟩ | ⟨-, rfl, -⟩ | ⟨-, rfl, -⟩
  · have open_ := sender (List.cons_ne_nil _ _)
    have same : (feed.enact (.offer log)).logs.hasSender = feed.logs.hasSender := by
      rcases Ledger.offer_cases feed.logs log with accepted | ⟨-, refused⟩
      · simp only [enact, accepted, Channel.push]
      · simp only [enact, refused]
    exact same.trans open_
  · exact absurd rfl more
  · exact absurd rfl more

/-- A supplier's producer ends well, and not before the sending end is let go of. -/
theorem ended_supply {l : Ledger} (supplied : feed.supply? rest = some (act, after)) :
    (l.note feed act).ended = l.ended ∨
      rest = [] ∧ feed.logs.hasSender = false ∧
        (l.note feed act).ended = some (l.accepted.length, .ok ()) := by
  rcases supply?_cases supplied with ⟨log, -, rfl, -⟩ | ⟨-, -, rfl, -⟩ |
    ⟨rfl, -, rfl, closed, running⟩
  · left
    simp only [Ledger.note]
    split <;> rfl
  · exact Or.inl rfl
  · right
    refine ⟨rfl, closed, ?_⟩
    simp only [Ledger.note, running, if_true]

/-- The weight of what is to be sent, of what is queued, and of the two ends to come. -/
def load (rest : List Log) (feed : Feed) : Nat :=
  4 * rest.length + 3 * feed.logs.items.length + feed.logs.hasSender.toNat +
    feed.subscription.isRunning.toNat

theorem load_supply (supplied : feed.supply? rest = some (act, after)) :
    (feed.enact act).load after < feed.load rest := by
  rcases supply?_cases supplied with ⟨log, rfl, rfl, -⟩ | ⟨rfl, rfl, rfl, open_⟩ |
    ⟨rfl, rfl, rfl, closed, running⟩
  · rcases Ledger.offer_cases feed.logs log with accepted | ⟨-, refused⟩
    · simp only [load, enact, accepted, Channel.push, List.length_append, List.length_cons,
        List.length_nil]
      omega
    · simp only [load, enact, refused, List.length_cons]
      omega
  · simp only [load, enact, Channel.closeSender, open_, Bool.toNat_true, Bool.toNat_false]
    omega
  · have stopped : (feed.subscription.exit (.ok ())).isRunning = false :=
      Subscription.isRunning_exit _ _
    simp only [load, enact, running, stopped, Bool.toNat_true, Bool.toNat_false]
    omega

end Feed

end NameRights
