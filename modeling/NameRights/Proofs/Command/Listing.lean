/- NameRights/Proofs/Command/Listing
   digest: The listing of past events shows one text for each log, up to the first that is none,
   in whatever order the replay and the reading of the logs take turns. -/

import NameRights.Command.Events
import NameRights.Proofs.Command.Exchanges
import NameRights.Proofs.Command.Shown
import NameRights.Proofs.Event.Selection
import NameRights.Proofs.Feed.Delivery
import NameRights.Proofs.Feed.ReplayCourse
import NameRights.Proofs.Node.Form

set_option autoImplicit false
set_option relaxedAutoImplicit false

namespace NameRights

namespace Cursor

variable {kind : EventKind} {event : Abi.Event} {logs rest : List Log}

private def behind (c : Cursor kind) (rest : List Log) : Cursor kind :=
  { c with feed := ⟨{ c.feed.logs with items := c.feed.logs.items ++ rest, hasSender := false },
                    ⟨false, false, none⟩⟩ }

namespace Rehearsal

variable {c : Cursor kind} {p : Producer}

private theorem settle_replay (running : c.feed.subscription = .started)
    (held : c.feed.logs.hasReceiver = true)
    (room : c.feed.logs.items.length + rest.length ≤ c.feed.logs.capacity) :
    settle ⟨.replay rest, c⟩ = ⟨.replay [], c.behind rest⟩ := by
  change NameRights.settle step? (rest.length + 1) _ = _
  induction rest generalizing c with
  | nil =>
    have stepped : step? ⟨.replay [], c⟩ = some ⟨.replay [], c.behind []⟩ := by
      simp [step?, Producer.step?, running, held, Subscription.started, Feed.leave,
        Channel.closeSender, Subscription.exit, behind]
    simp only [NameRights.settle, stepped]
    rfl
  | cons log rest ih =>
    have space : c.feed.logs.hasRoom = true := by
      rw [List.length_cons] at room
      simp only [Channel.hasRoom, decide_eq_true_eq]
      omega
    let next : Cursor kind := { c with feed.logs := c.feed.logs.push log }
    have stepped : step? ⟨.replay (log :: rest), c⟩ = some ⟨.replay rest, next⟩ := by
      simp [step?, Producer.step?, running, held, space, Subscription.started, next]
    have others : NameRights.settle step? (rest.length + 1) ⟨.replay rest, next⟩ =
        ⟨.replay [], next.behind rest⟩ := by
      apply ih (c := next) running held
      rw [List.length_cons] at room
      simp only [next, Channel.push, List.length_append, List.length_singleton]
      omega
    have whole : next.behind rest = c.behind (log :: rest) := by
      simp [next, behind, Channel.push]
    rw [List.length_cons, NameRights.settle, stepped, ← whole]
    exact others

private theorem readAll_draining {fuel : Nat} (draining : c.phase = .draining)
    (sound : c.failure = none)
    (queued : c.feed.logs.items = logs) (enough : logs.length < fuel) :
    ((readAll fuel ⟨p, c⟩).1, (readAll fuel ⟨p, c⟩).2.failure) = kind.readThrough c.event logs := by
  induction logs generalizing c fuel with
  | nil =>
    obtain ⟨fuel, rfl⟩ := Nat.exists_eq_add_one.2 enough
    have ended : next none ⟨p, c⟩ = (some false, ⟨p, { c with phase := .exhausted }⟩) := by
      simp [next, next?, Cursor.next?, heed, attempt?, drain, readQueued?, Channel.pop?, draining,
        queued]
    simp only [readAll, ended, sound, EventKind.readThrough]
  | cons log logs ih =>
    obtain ⟨fuel, rfl⟩ := Nat.exists_eq_add_one.2 (Nat.lt_of_le_of_lt (Nat.zero_le _) enough)
    have reached : next none ⟨p, c⟩ =
        (some (Cursor.read log { c with feed.logs.items := logs }).1,
          ⟨p, (Cursor.read log { c with feed.logs.items := logs }).2⟩) := by
      simp [next, next?, Cursor.next?, heed, attempt?, drain, readQueued?, Channel.pop?, draining,
        queued]
    cases decoded : kind.decode c.event log with
    | error e => simp [readAll, reached, Cursor.read, decoded, EventKind.readThrough]
    | ok record =>
      have others := ih (c := { c with feed.logs.items := logs, current := some record }) draining
        sound rfl (Nat.lt_of_succ_lt_succ enough)
      simp only [readAll, reached, Cursor.read, decoded, EventKind.readThrough, ← others,
        Option.toList_some, List.singleton_append]

end Rehearsal

end Cursor

private theorem EventKind.readLogs_eq (kind : EventKind) (event : Abi.Event) (logs : List Log) :
    kind.readLogs event logs = kind.readThrough event logs := by
  let c : Cursor kind := .start event (Feed.replaying logs).2
  let d : Cursor kind := { c.behind logs with phase := .draining }
  have settled : Cursor.Rehearsal.settle ⟨.replay logs, c⟩ = ⟨.replay [], c.behind logs⟩ :=
    Cursor.Rehearsal.settle_replay rfl rfl (by
      change 0 + logs.length ≤ max logs.length 1
      omega)
  have waits : Cursor.Rehearsal.next? ⟨.replay logs, c⟩ = none := rfl
  have first : Cursor.Rehearsal.next none ⟨.replay logs, c⟩ =
      Cursor.Rehearsal.next none ⟨.replay [], d⟩ := by
    simp only [Cursor.Rehearsal.next, waits, settled]
    rfl
  have same : Cursor.Rehearsal.readAll (logs.length + 1) ⟨.replay logs, c⟩ =
      Cursor.Rehearsal.readAll (logs.length + 1) ⟨.replay [], d⟩ := by
    simp only [Cursor.Rehearsal.readAll, first]
  have read := Cursor.Rehearsal.readAll_draining (p := .replay []) (c := d) rfl rfl rfl
    (Nat.lt_succ_self logs.length)
  rw [← same] at read
  exact read

namespace Client

/-- The request for the past logs of an event that a contract left. -/
def searchRequest (kind : EventKind) (address : Address) (choices : EventKind.Choices kind.slots)
    (range : BlockRange) : Request :=
  ⟨"eth_getLogs",
    [(kind.filter address choices (some (range.fromBlock.getD 0)) range.toBlock).toJson]⟩

end Client

namespace Task

variable {σ : Type}

/-- A node answers a request for logs with these. -/
def Finds (node : Request → σ → Reply × σ) (r : Request) (s : σ) (logs : List Log) (s' : σ) : Prop :=
  ∃ j, node r s = (.ok j, s') ∧ Form.list? Form.log? j = some logs

variable {node : Request → σ → Reply × σ} {s s' : σ} {logs : List Log}

private theorem run_filterEvents {c : Contract} {kind : EventKind} {event : Abi.Event}
    (declared : c.event kind.name = .ok event) {address : Address}
    {choices : EventKind.Choices kind.slots} {range : BlockRange}
    (found : Finds node (Client.searchRequest kind address choices range) s logs s')
    (fault : ContractError → CommandFault) :
    (chain fault (Client.filterEvents address c kind choices range)).run (attend node) s =
      ([.send (Client.searchRequest kind address choices range)], .ok (event, logs), s') := by
  obtain ⟨j, replied, read⟩ := found
  have program : Client.filterEvents address c kind choices range =
      .ask (.filterLogs (kind.filter address choices (some (range.fromBlock.getD 0)) range.toBlock))
        fun reply => (Session.ofExcept reply).bind fun logs => .done (.ok (event, logs)) := by
    simp only [Client.filterEvents, Client.eventFilter_declared declared]
    rfl
  rw [program]
  unfold Client.searchRequest at replied ⊢
  simp only [chain, Node.serve, Session.refine, Node.answer, Node.filterLogs, Exchange.request,
    Session.attempt, Session.bind, Session.query, Session.mapError, Session.run, attend, replied,
    read, Session.ofExcept, Outcome.ofExcept, Outcome.mapError]

private theorem run_sayAll (node : Request → σ → Reply × σ) (lines : List String) (s : σ) :
    (Command.sayAll lines).run (attend node) s =
      (lines.map fun line => .print (line ++ "\n"), .ok (), s) := by
  induction lines with
  | nil => rfl
  | cons line lines ih =>
    have first : (say line).run (attend node) s = ([.print (line ++ "\n")], .ok (), s) := rfl
    rw [Command.sayAll, Session.run_bind first, ih]
    rfl

private def listingEnd (fault : ContractError → CommandFault) : Option ContractError →
    Outcome CommandFault Unit
  | none => .ok ()
  | some e => .error (fault e)

private theorem run_list {c : Contract} {kind : EventKind} {event : Abi.Event}
    (declared : c.event kind.name = .ok event) {address : Address}
    {choices : EventKind.Choices kind.slots} {range : BlockRange}
    (found : Finds node (Client.searchRequest kind address choices range) s logs s')
    (line : kind.Record → String) (fault : ContractError → CommandFault) :
    (Command.list kind (Client.filterEvents address c kind choices range) line fault).run
        (attend node) s =
      (.send (Client.searchRequest kind address choices range) ::
          ((kind.readThrough event logs).1.map fun r => line r ++ "\n").map .print,
        listingEnd fault (kind.readThrough event logs).2, s') := by
  rw [Command.list, Session.run_bind (run_filterEvents declared found .contract)]
  simp only [kind.readLogs_eq]
  rw [Session.run_bind (run_sayAll node ((kind.readThrough event logs).1.map line) s'),
    List.map_map, List.map_map]
  cases (kind.readThrough event logs).2 with
  | none => simp [listingEnd, pure, Session.run, Function.comp_def]
  | some e => simp [listingEnd, Session.fail, Session.run, Function.comp_def]

end Task

/-- What is read of a batch of logs: a record of each of them, or of each in front of the first that
is none, and why that one is none. -/
inductive EventKind.Reads (kind : EventKind) :
    List Log → List kind.Record → Option ContractError → Prop
  | all {logs : List Log} {records : List kind.Record}
      (decoded : logs.map (kind.decode kind.declaration) = records.map .ok) :
      Reads kind logs records none
  | upTo {before after : List Log} {log : Log} {records : List kind.Record} {e : ContractError}
      (decoded : before.map (kind.decode kind.declaration) = records.map .ok)
      (broken : kind.decode kind.declaration log = .error e) :
      Reads kind (before ++ log :: after) records (some e)

private theorem EventKind.reads_readThrough (kind : EventKind) (logs : List Log) :
    kind.Reads logs (kind.readThrough kind.declaration logs).1
      (kind.readThrough kind.declaration logs).2 := by
  induction logs with
  | nil => exact .all rfl
  | cons log logs ih =>
    cases decoded : kind.decode kind.declaration log with
    | error e =>
      simp only [readThrough, decoded]
      have first : kind.Reads ([] ++ log :: logs) [] (some e) := .upTo rfl decoded
      exact first
    | ok record =>
      simp only [readThrough, decoded]
      generalize (kind.readThrough kind.declaration logs).1 = records at ih
      generalize (kind.readThrough kind.declaration logs).2 = failure at ih
      cases ih with
      | all rest =>
        apply EventKind.Reads.all
        rw [List.map_cons, List.map_cons, decoded, rest]
      | @upTo before after log' _ e rest broken =>
        change kind.Reads ((log :: before) ++ log' :: after) _ _
        refine .upTo ?_ broken
        rw [List.map_cons, List.map_cons, decoded, rest]

private theorem EventKind.Reads.eq_readThrough {kind : EventKind} {logs : List Log}
    {records : List kind.Record} {failure : Option ContractError}
    (reads : kind.Reads logs records failure) :
    kind.readThrough kind.declaration logs = (records, failure) := by
  cases reads with
  | all decoded =>
    induction logs generalizing records with
    | nil =>
      rw [List.map_eq_nil_iff.1 decoded.symm]
      rfl
    | cons log logs ih =>
      obtain ⟨record, records, rfl, first, rest⟩ := List.map_eq_cons_iff.1 decoded.symm
      simp only [readThrough, ← first, ih rest.symm]
  | @upTo before after log _ e decoded broken =>
    induction before generalizing records with
    | nil =>
      rw [List.map_eq_nil_iff.1 decoded.symm]
      simp only [List.nil_append, readThrough, broken]
    | cons earlier before ih =>
      obtain ⟨record, records, rfl, first, rest⟩ := List.map_eq_cons_iff.1 decoded.symm
      simp only [List.cons_append, readThrough, ← first, ih rest.symm]

/-- In whatever order the replay of a batch and its reading take turns, every turn brings them closer
to their end, and at the end the same has been read as when the replay goes first. -/
private theorem EventKind.readLogs_turns (kind : EventKind) (event : Abi.Event) (logs : List Log)
    (turns : List Cursor.Supplied.Act) :
    let r : Cursor.Supplied kind := (Cursor.Supplied.start event logs (max logs.length 1)).run turns
    (∀ turn after, r.step? turn = some after → after.left < r.left) ∧
    (r.IsOver → r.isDone = true) ∧
    (r.isDone = true → (r.yielded, r.scene.cursor.failure) = kind.readLogs event logs) := by
  intro r
  obtain ⟨capacity, room⟩ : ∃ capacity, max logs.length 1 = capacity + 1 :=
    Nat.exists_eq_add_one.2 (Nat.lt_of_lt_of_le Nat.one_pos (Nat.le_max_right _ _))
  have holds : r.Holds event logs := by
    simp only [r, room]
    exact (Cursor.Supplied.holds_start event logs capacity).run turns
  refine ⟨fun _ _ => Cursor.Supplied.left_step, holds.isDone_of_over, fun done => ?_⟩
  rw [kind.readLogs_eq, (holds.delivers done).1]

open Client (searchRequest)
open NameRights.Task (attend Finds listingEnd)

namespace Command

section Course

variable {context : Context} {registry privilege : Address} {range : BlockRange} {σ : Type}
  {node : Request → σ → Reply × σ} {s s' t : σ} {logs more : List Log}

private def listed (kind : EventKind) (address : Address) (choices : EventKind.Choices kind.slots)
    (range : BlockRange) (logs : List Log) (line : kind.Record → String) : List Act :=
  .send (searchRequest kind address choices range) ::
    ((kind.readThrough kind.declaration logs).1.map fun r => line r ++ "\n").map .print

private theorem declares_registrations :
    Contract.registry.event EventKind.nameRegistered.name =
      .ok EventKind.nameRegistered.declaration := rfl

private theorem declares_assignments :
    Contract.privilege.event EventKind.privilegeAssigned.name =
      .ok EventKind.privilegeAssigned.declaration := rfl

private theorem events_eq
    (known : context.registry = some registry ∧ context.privilege = some privilege) :
    events context range =
      list .nameRegistered
          (Client.filterEvents registry .registry .nameRegistered ([], [], ()) range)
          registrationLine .readingRegistrations >>= fun _ =>
        list .privilegeAssigned
          (Client.filterEvents privilege .privilege .privilegeAssigned ([], [], [], ()) range)
          assignmentLine .readingAssignments := by
  simp only [events, registrations, assignments, known]
  rfl

private theorem run_events_broken {e : ContractError}
    (known : context.registry = some registry ∧ context.privilege = some privilege)
    (found : Finds node (searchRequest .nameRegistered registry ([], [], ()) range) s logs s')
    (broken : (EventKind.nameRegistered.readThrough EventKind.nameRegistered.declaration logs).2 =
      some e) :
    (events context range).run (attend node) s =
      (listed .nameRegistered registry ([], [], ()) range logs registrationLine,
        .error (.readingRegistrations e), s') := by
  have first := Task.run_list declares_registrations found registrationLine .readingRegistrations
  rw [broken] at first
  rw [events_eq known, Session.run_bind_error first]
  rfl

private theorem run_events
    (known : context.registry = some registry ∧ context.privilege = some privilege)
    (found : Finds node (searchRequest .nameRegistered registry ([], [], ()) range) s logs s')
    (whole : (EventKind.nameRegistered.readThrough EventKind.nameRegistered.declaration logs).2 =
      none)
    (foundMore : Finds node (searchRequest .privilegeAssigned privilege ([], [], [], ()) range) s'
      more t) :
    (events context range).run (attend node) s =
      (listed .nameRegistered registry ([], [], ()) range logs registrationLine ++
          listed .privilegeAssigned privilege ([], [], [], ()) range more assignmentLine,
        listingEnd .readingAssignments
          (EventKind.privilegeAssigned.readThrough EventKind.privilegeAssigned.declaration more).2,
        t) := by
  have first := Task.run_list declares_registrations found registrationLine .readingRegistrations
  have second := Task.run_list declares_assignments foundMore assignmentLine .readingAssignments
  rw [whole] at first
  rw [events_eq known, Session.run_bind first, second]
  rfl

/-- Both contracts known, the registry is asked for its past registrations and each log that is
answered is shown by one text, in order, up to the first log that is no registration. If there is
one, the listing fails with its error and asks for nothing more. Otherwise the privilege contract
is asked for its past assignments, which are shown in the same way.

The text of an assignment is one line. So is that of a registration, unless there are line feeds in
the name: it is shown as it is, and each of them makes a line more. What is shown of a batch of logs
does not depend on the order in which its replay and its reading take turns: every turn brings both
closer to their end, and at the end the same has been read. -/
theorem events_course
    (known : context.registry = some registry ∧ context.privilege = some privilege)
    (range : BlockRange)
    (found : Finds node (searchRequest .nameRegistered registry ([], [], ()) range) s logs s') :
    (∃ registered failure texts,
      EventKind.nameRegistered.Reads logs registered failure ∧
      List.Forall₂ ShowsRegistration registered texts ∧
      let first : List Act := .send (searchRequest .nameRegistered registry ([], [], ()) range) ::
        texts.map .print
      (∀ e, failure = some e →
        (events context range).run (attend node) s = (first, .error (.readingRegistrations e), s')) ∧
      (failure = none → ∀ (more : List Log) (t : σ),
        Finds node (searchRequest .privilegeAssigned privilege ([], [], [], ()) range) s' more t →
        ∃ assigned failure' texts',
          EventKind.privilegeAssigned.Reads more assigned failure' ∧
          List.Forall₂ ShowsAssignment assigned texts' ∧
          let second : List Act :=
            .send (searchRequest .privilegeAssigned privilege ([], [], [], ()) range) ::
              texts'.map .print
          (failure' = none →
            (events context range).run (attend node) s = (first ++ second, .ok (), t)) ∧
          ∀ e, failure' = some e → (events context range).run (attend node) s =
            (first ++ second, .error (.readingAssignments e), t))) ∧
    (∀ r text, ShowsRegistration r text → HasLines (1 + feeds r.name) text) ∧
    (∀ r text, ShowsAssignment r text → HasLines 1 text) ∧
    ∀ (kind : EventKind) (batch : List Log) (turns : List Cursor.Supplied.Act),
      let r : Cursor.Supplied kind :=
        (Cursor.Supplied.start kind.declaration batch (max batch.length 1)).run turns
      (∀ turn after, r.step? turn = some after → after.left < r.left) ∧
      (r.IsOver → r.isDone = true) ∧
      (r.isDone = true →
        (r.yielded, r.scene.cursor.failure) = kind.readLogs kind.declaration batch) := by
  refine ⟨⟨_, _, _, EventKind.reads_readThrough _ logs,
    forall₂_map_line showsRegistration_line _, ?_, ?_⟩, fun _ _ => ShowsRegistration.hasLines,
    fun _ _ => ShowsAssignment.hasLines,
    fun kind batch => kind.readLogs_turns kind.declaration batch⟩
  · intro e broken
    exact run_events_broken known found broken
  · intro whole more t foundMore
    have run := run_events known found whole foundMore
    refine ⟨_, _, _, EventKind.reads_readThrough _ more,
      forall₂_map_line showsAssignment_line _, fun whole' => ?_, fun e broken => ?_⟩
    · rw [run, whole']
      rfl
    · rw [run, broken]
      rfl

end Course

/-- A node that answers the first search with one log and the second with none. -/
private def answering (log : Log) (_ : Request) (n : Nat) : Reply × Nat :=
  (.ok (.list (if n = 0 then [Form.ofLog log] else [])), n + 1)

private def bothKnown : Context :=
  ⟨some (.replicate 0x11), some (.replicate 0x22), none, none, none, [], 0, .absent⟩

private theorem known_bothKnown : bothKnown.registry = some (.replicate 0x11) ∧
    bothKnown.privilege = some (.replicate 0x22) := ⟨rfl, rfl⟩

private theorem finds_answering (log : Log) (r : Request) : Finds (answering log) r 0 [log] 1 :=
  ⟨_, rfl, Form.list?_map Form.log?_ofLog [log]⟩

/-- A registry with one registration and a privilege contract without assignments. -/
theorem events_aliceRegistered :
    (events bothKnown ⟨none, none⟩).run (attend (answering aliceRegistered)) 0 =
      ([.send (searchRequest .nameRegistered (.replicate 0x11) ([], [], ()) ⟨none, none⟩),
        .print ("NameRegistered name=alice owner=0x00000000000000000000000000000000000000aa " ++
          "expires=31536000 block=None\n"),
        .send (searchRequest .privilegeAssigned (.replicate 0x22) ([], [], [], ()) ⟨none, none⟩)],
        .ok (), 2) := by
  obtain ⟨⟨registered, failure, texts, reads, shows, -, onward⟩, -⟩ :=
    events_course known_bothKnown ⟨none, none⟩ (finds_answering aliceRegistered _)
  have read := reads.eq_readThrough
  rw [EventKind.readThrough, Cursor.Replay.decode_aliceRegistered] at read
  cases read
  obtain ⟨assigned, failure, none, reads, shows', whole, -⟩ := onward rfl [] 2 ⟨_, rfl, rfl⟩
  cases reads.eq_readThrough
  cases shows'
  obtain _ | ⟨⟨stands⟩, ⟨⟩⟩ := shows
  cases stands
  rw [whole rfl]
  rfl

/-- The registration of a name with a line feed in it. -/
def twoLinesRegistered : Log :=
  { aliceRegistered with
    data := Abi.word 64 ++ Abi.word 31536000 ++ Abi.counted [0x61, 0x0a, 0x62] }

private theorem decode_twoLinesRegistered :
    EventKind.nameRegistered.decode EventKind.nameRegistered.declaration twoLinesRegistered =
      .ok ⟨1, "a\nb", ⟨0xaa⟩, 31536000, twoLinesRegistered⟩ := by
  let kind := EventKind.nameRegistered
  let record : NameRegistered := ⟨1, "a\nb", ⟨0xaa⟩, 31536000, twoLinesRegistered⟩
  have topics : twoLinesRegistered.topics =
      kind.topic :: (Abi.Field.pick true kind.declaration.inputs (kind.data record)).map
        Datum.topic := by
    decide +kernel
  have data : twoLinesRegistered.data =
      Abi.encode ((Abi.Field.pick false kind.declaration.inputs (kind.data record)).map
        Datum.value) := by
    decide +kernel
  exact @EventKind.decode_coded kind record (EventKind.short_registered (by decide)) topics data

/-- One log that decodes, and no other: two lines are printed. -/
theorem events_lineFeed :
    let course := (events bothKnown ⟨none, none⟩).run (attend (answering twoLinesRegistered)) 0
    let printed := (Performance.ofActs course.1 course.2.1).printed
    (∃ r, EventKind.nameRegistered.decode EventKind.nameRegistered.declaration twoLinesRegistered =
      .ok r) ∧
    course.2.1 = .ok () ∧
    printed = "NameRegistered name=a\nb owner=0x00000000000000000000000000000000000000aa " ++
      "expires=31536000 block=None\n" ∧
    HasLines 2 printed ∧ ¬ HasLines 1 printed := by
  intro course printed
  have read : EventKind.nameRegistered.readThrough EventKind.nameRegistered.declaration
      [twoLinesRegistered] = ([⟨1, "a\nb", ⟨0xaa⟩, 31536000, twoLinesRegistered⟩], none) := by
    rw [EventKind.readThrough, decode_twoLinesRegistered]
    rfl
  have run : course =
      (listed .nameRegistered (.replicate 0x11) ([], [], ()) ⟨none, none⟩ [twoLinesRegistered]
          registrationLine ++
        listed .privilegeAssigned (.replicate 0x22) ([], [], [], ()) ⟨none, none⟩ [] assignmentLine,
        .ok (), 2) :=
    run_events known_bothKnown (finds_answering twoLinesRegistered _) (by rw [read]) ⟨_, rfl, rfl⟩
  have whole : course.2.1 = .ok () := by rw [run]
  have text : printed =
      "NameRegistered name=a\nb owner=0x00000000000000000000000000000000000000aa " ++
        "expires=31536000 block=None\n" := by
    simp only [printed, run, listed, read]
    decide +kernel
  have two : HasLines 2 printed := by
    rw [text]
    exact ⟨by decide, "NameRegistered name=a\nb owner=0x00000000000000000000000000000000000000aa " ++
      "expires=31536000 block=None", by decide⟩
  refine ⟨⟨_, decode_twoLinesRegistered⟩, whole, text, two, ?_⟩
  rintro ⟨one, -⟩
  cases one.symm.trans two.1

end Command

end NameRights
