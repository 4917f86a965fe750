/- NameRights/Proofs/Feed/CallAnswers
   digest: The answers of a feed's reader are what the logs that it has taken come to. -/

import NameRights.Proofs.Feed.Closing

set_option autoImplicit false
set_option relaxedAutoImplicit false

namespace NameRights

section Reading

variable {kind : EventKind} {event : Abi.Event} {front : List Log} {records : List kind.Record}

theorem EventKind.readThrough_onward (clean : kind.readThrough event front = (records, none))
    (rest : List Log) : kind.readThrough event (front ++ rest) =
      (records ++ (kind.readThrough event rest).1, (kind.readThrough event rest).2) := by
  induction front generalizing records with
  | nil =>
    obtain ⟨rfl, -⟩ := Prod.mk.inj clean
    rfl
  | cons log front ih =>
    rw [List.cons_append, readThrough]
    cases decoded : kind.decode event log with
    | error e =>
      rw [readThrough, decoded] at clean
      cases clean
    | ok record =>
      rw [readThrough, decoded] at clean
      obtain ⟨rfl, unfailing⟩ := Prod.mk.inj clean
      have others : kind.readThrough event front = ((kind.readThrough event front).1, none) := by
        rw [← unfailing]
      simp only [ih others, List.cons_append]

theorem EventKind.readThrough_halted {e : ContractError}
    (halted : kind.readThrough event front = (records, some e)) (rest : List Log) :
    kind.readThrough event (front ++ rest) = (records, some e) := by
  induction front generalizing records with
  | nil => cases halted
  | cons log front ih =>
    rw [List.cons_append, readThrough]
    cases decoded : kind.decode event log with
    | error fault =>
      rw [readThrough, decoded] at halted
      exact halted
    | ok record =>
      rw [readThrough, decoded] at halted
      obtain ⟨rfl, failing⟩ := Prod.mk.inj halted
      have others : kind.readThrough event front = ((kind.readThrough event front).1, some e) := by
        rw [← failing]
      simp only [ih others]

end Reading

private theorem Feed.Ledger.taken_watch {l : Feed.Ledger} {logs : Channel Log} {log : Log}
    {rest : List Log}
    (held : logs.hasReceiver = true) (items : logs.items = log :: rest) :
    (l.watch logs { logs with items := rest }).taken = l.taken ++ [log] := by
  simp [watch, held, items]

namespace Cursor.Call.Scene

variable {kind : EventKind} {event : Abi.Event} {s : Scene kind} {call : Call}

/-- The answers of a cursor in use tell what the logs that it has taken come to. -/
structure Tells (event : Abi.Event) (s : Scene kind) : Prop where
  sameEvent : s.cursor.event = event
  held : s.cursor.feed.logs.hasReceiver = true
  fits : s.ledger.Fits s.cursor.feed
  told : ∃ (records : List kind.Record) (refusals : List (Bool × Option kind.Record)),
    s.answers = records.map (fun r => (true, some r)) ++ refusals ∧
    (∀ a ∈ refusals, a.1 = false) ∧ (refusals ≠ [] → IsStopped s.cursor) ∧
    kind.readThrough event s.ledger.taken = (records, s.cursor.failure)

theorem tells_start (event : Abi.Event) (capacity : Nat) :
    (start event capacity : Scene kind).Tells event :=
  ⟨rfl, rfl, Feed.Ledger.fits_blank capacity, [], [], rfl, fun _ none => (nomatch none),
    fun some => absurd rfl some, rfl⟩

theorem Tells.outside (tells : s.Tells event) (act : Feed.Act) :
    (s.step (.outside act)).Tells event := by
  obtain ⟨same, held, fits, records, refusals, answers, refused, stopped, whole⟩ := tells
  refine ⟨same, (Feed.hasReceiver_enact _ act).trans held, fits.note act, records, refusals,
    answers, refused, stopped, ?_⟩
  simp only [Scene.step, Feed.Ledger.taken_note]
  exact whole

private theorem Tells.keep {t : Scene kind} (tells : s.Tells event) (frame : s.Frame t)
    (logs : t.cursor.feed.logs = s.cursor.feed.logs) (answers : t.answers = s.answers)
    (failure : t.cursor.failure = s.cursor.failure)
    (stopped : IsStopped s.cursor → IsStopped t.cursor) : t.Tells event := by
  obtain ⟨same, held, fits, records, refusals, given, refused, ended, whole⟩ := tells
  have ledger : t.ledger = s.ledger := by
    rw [frame.ledger, logs, Feed.Ledger.watch_self]
  have fits' := fits.reads frame.reads
  rw [← frame.ledger] at fits'
  refine ⟨frame.event.trans same, frame.held.trans held, fits', records, refusals,
    answers.trans given, refused, fun some => stopped (ended some), ?_⟩
  rw [ledger, failure]
  exact whole

private theorem Tells.answer (sound : s.Sound) (tells : s.Tells event)
    (calling : s.stage = .calling call)
    {answer : Bool} {c : Cursor kind} (moves : Moves s.cursor call (.returns answer) c) :
    (s.answered answer c).Tells event := by
  have standing := sound.stands call calling
  obtain ⟨feedReads, held', sameEvent, -⟩ := reads_moves moves
  obtain ⟨rfl, held, fits, records, refusals, given, refused, ended, whole⟩ := tells
  have fits' : (s.answered answer c).ledger.Fits c.feed := fits.reads feedReads
  -- a call that takes a log is the first that may be refused
  have going (reads : call.Reads s.cursor) : refusals = [] ∧ s.cursor.failure = none := by
    have unstopped := not_stopped_of_reads reads standing
    refine ⟨Classical.byContradiction fun some => unstopped (ended some), ?_⟩
    exact sound.unfailing.2 fun failed => unstopped (Or.inr failed)
  have refuse (stopped : IsStopped c) (no : answer = false) {read : List kind.Record}
      (before : s.answers = read.map (fun r => (true, some r)) ++ refusals)
      (through : kind.readThrough s.cursor.event (s.answered answer c).ledger.taken =
        (read, c.failure)) : (s.answered answer c).Tells s.cursor.event := by
    refine ⟨sameEvent, held'.trans held, fits', read, refusals ++ [(answer, c.current)], ?_, ?_,
      fun _ => stopped, through⟩
    · simp only [Scene.answered, before, List.append_assoc]
    · intro a member
      rcases List.mem_append.1 member with early | last
      · exact refused a early
      · rw [List.mem_singleton.1 last]
        exact no
  cases moves with
  | refuse stopped =>
    apply refuse stopped rfl given
    simp only [Scene.answered, Feed.Ledger.watch_self]
    exact whole
  | exhaust reads notLogs empty =>
    apply refuse (Or.inl rfl) rfl given
    simp only [Scene.answered, Feed.Ledger.watch_self]
    exact whole
  | close verdict =>
    have frame := heed_frame s.cursor
    apply refuse (Or.inl rfl) rfl given
    simp only [Scene.answered, frame.logs, frame.failure, Feed.Ledger.watch_self]
    exact whole
  | fail reads items broken =>
    obtain ⟨rfl, unfailing⟩ := going reads
    rw [unfailing] at whole
    apply refuse (Or.inr rfl) rfl given
    simp only [Scene.answered, Feed.Ledger.taken_watch held items]
    rw [EventKind.readThrough_onward whole, EventKind.readThrough, broken, List.append_nil]
  | read reads items decoded =>
    rename_i log rest record
    obtain ⟨rfl, unfailing⟩ := going reads
    rw [unfailing] at whole
    refine ⟨sameEvent, held'.trans held, fits', records ++ [record], [], ?_, refused,
      fun some => absurd rfl some, ?_⟩
    · simp only [Scene.answered, given, List.append_nil, List.map_append, List.map_cons, List.map_nil]
    · simp only [Scene.answered, Feed.Ledger.taken_watch held items, unfailing]
      rw [EventKind.readThrough_onward whole, EventKind.readThrough, decoded]
      rfl

private theorem Tells.goOn (sound : s.Sound) (tells : s.Tells event) : s.goOn.Tells event := by
  have frame := frame_goOn s
  cases stage : s.stage with
  | free =>
    rw [goOn_of_free stage]
    exact tells
  | calling call =>
    rcases goOn_cases stage with ⟨after, c, moves, made⟩ | ⟨answer, c, moves, made⟩
    · rw [made] at frame ⊢
      cases moves with
      | look | wait | finish | stay => exact tells.keep frame rfl rfl rfl id
      | heed active verdict =>
        have heeds := heed_frame s.cursor
        refine tells.keep frame heeds.logs rfl heeds.failure ?_
        intro stopped
        rcases stopped with phase | phase <;> cases active.symm.trans phase
    · rw [made]
      exact tells.answer sound stage moves
  | closing =>
    simp only [Scene.goOn, stage] at frame ⊢
    cases joined : s.cursor.endClose? with
    | none => exact tells
    | some c =>
      simp only [joined] at frame
      obtain ⟨subscription, -, rfl⟩ := Option.map_eq_some_iff.1 joined
      refine tells.keep frame rfl rfl rfl ?_
      rintro (phase | phase)
      · exact Or.inl (by simp [phase])
      · exact Or.inr (by simp [phase])

theorem Tells.make (sound : s.Sound) (tells : s.Tells event) (move : Move) :
    (s.make move).Tells event := by
  have frame := frame_make s move
  cases move with
  | step => exact tells.goOn sound
  | next | take | close =>
    simp only [Scene.make] at frame ⊢
    split at frame
    · rename_i free
      rw [if_pos free]
      exact tells.keep frame rfl rfl rfl id
    · rename_i busy
      rw [if_neg busy]
      exact tells
  | abandon =>
    simp only [Scene.make]
    split
    · split
      · exact tells.keep (frame_self s .free) rfl rfl rfl id
      · exact tells
    · exact tells
    · exact tells

end Cursor.Call.Scene

end NameRights
