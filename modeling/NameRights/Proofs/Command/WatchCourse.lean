/- NameRights/Proofs/Command/WatchCourse
   digest: A watch at a node is one of the orders in which the contracts' feeds and the watch can
   take turns. -/

import NameRights.Proofs.Command.Shown
import NameRights.Proofs.Command.Watching
import NameRights.Proofs.Event.Selection
import NameRights.Proofs.Node.LineRest

set_option autoImplicit false
set_option relaxedAutoImplicit false

namespace NameRights

namespace Watching

variable {w v : Watching} {i : Nat} {acts : List Act}

private theorem isInterrupted_step {tap tap' : Tap .transfer}
    (made : w.step? i tap = some (acts, v, tap')) :
    v.isInterrupted = w.isInterrupted := by
  have concluded {contract : Contract} (made : w.conclude? i contract tap = some (acts, v, tap')) :
      v.isInterrupted = w.isInterrupted := by
    unfold conclude? at made
    split at made
    · cases made
    · split at made
      · cases made
        rfl
      · obtain ⟨⟨failure, _⟩, -, made⟩ := Option.map_eq_some_iff.1 made
        cases failure <;> (cases made; rfl)
  unfold step? at made
  split at made
  · cases made
  · cases made
  · obtain ⟨_, -, made⟩ := Option.map_eq_some_iff.1 made
    cases made
    rfl
  · exact concluded made
  · split at made
    · exact concluded made
    · obtain ⟨⟨item, _⟩, -, made⟩ := Option.map_eq_some_iff.1 made
      simp only at made
      split at made <;> (cases made; rfl)

private theorem Steps.keeps {contract : Contract} {status status' : Status}
    {f g : Forwarder .transfer}
    (made : Steps w i f contract status status' acts g) :
    g.feed = f.feed ∧ g.stage = f.stage ∧ g.sink.capacity = f.sink.capacity := by
  cases made with
  | receive popped =>
    rw [(Channel.pop?_eq_some_iff.1 popped).2]
    exact ⟨rfl, rfl, rfl⟩
  | close empty closed => exact ⟨rfl, rfl, rfl⟩
  | conclude turn verdict => exact ⟨rfl, rfl, rfl⟩
  | join joined => exact ⟨rfl, rfl, rfl⟩

namespace Run

variable {run next : Run}

private theorem exists_of_stepFrom {index : Nat} {lines : List (Line .transfer)}
    (made : run.stepFrom? index lines = some next) :
    ∃ k line acts watching tap, lines[k]? = some line ∧
      run.watching.step? (index + k) line.tap = some (acts, watching, tap) ∧
      next = ⟨watching, { run.timeline with
        lines := run.timeline.lines.modify (index + k) fun line => { line with tap } },
        run.acts ++ acts⟩ := by
  induction lines generalizing index with
  | nil => cases made
  | cons line lines ih =>
    unfold stepFrom? at made
    cases stepped : run.watching.step? index line.tap with
    | some entry =>
      obtain ⟨acts, watching, tap⟩ := entry
      simp only [stepped] at made
      cases made
      exact ⟨0, line, acts, watching, tap, rfl, stepped, rfl⟩
    | none =>
      simp only [stepped] at made
      obtain ⟨k, line', acts, watching, tap, here, stepped, rfl⟩ := ih made
      refine ⟨k + 1, line', acts, watching, tap, here, ?_⟩
      rw [Nat.add_comm k 1, ← Nat.add_assoc]
      exact ⟨stepped, rfl⟩

private theorem waits_of_stepFrom {index : Nat} {lines : List (Line .transfer)}
    (waits : run.stepFrom? index lines = none) {k : Nat} {line : Line .transfer}
    (here : lines[k]? = some line) : run.watching.step? (index + k) line.tap = none := by
  induction lines generalizing index k with
  | nil => cases here
  | cons first lines ih =>
    unfold stepFrom? at waits
    cases stepped : run.watching.step? index first.tap with
    | some entry => simp [stepped] at waits
    | none =>
      simp only [stepped] at waits
      cases k with
      | zero =>
        cases here
        exact stepped
      | succ k =>
        rw [Nat.add_comm k 1, ← Nat.add_assoc]
        exact ih waits here

/-- All that a watch at a node can do: a step with one of the contracts, after which the lines go on
as far as they get; or it heeds the interruption; or time goes on. -/
inductive Advances (run : Run) : Run → Prop
  | step {after : Run} (stepped : run.stepFrom? 0 run.timeline.lines = some after) :
      Advances run { after with timeline := after.timeline.settle }
  | heed : Advances run { run with watching := { run.watching with isInterrupted := true } }
  | wait {timeline : Timeline .transfer} (onward : run.timeline.advance? = some timeline) :
      Advances run { run with timeline }

private theorem advances_of_advance (made : run.advance? = some next) : run.Advances next := by
  unfold advance? at made
  cases stepped : run.stepFrom? 0 run.timeline.lines with
  | some after =>
    simp only [stepped] at made
    cases made
    exact .step stepped
  | none =>
    simp only [stepped] at made
    split at made
    · cases made
    · split at made
      · cases made
        exact .heed
      · obtain ⟨timeline, onward, made⟩ := Option.map_eq_some_iff.1 made
        cases made
        exact .wait onward

private theorem isInterrupted_advance (made : run.advance? = some next)
    (interrupted : run.watching.isInterrupted = true) : next.watching.isInterrupted = true := by
  cases advances_of_advance made with
  | step stepped =>
    obtain ⟨k, line, acts, watching, tap, -, taken, rfl⟩ := exists_of_stepFrom stepped
    exact (isInterrupted_step taken).trans interrupted
  | heed => rfl
  | wait onward => exact interrupted

private theorem isArmed_stepFrom (armed : run.timeline.IsArmed)
    (made : run.stepFrom? 0 run.timeline.lines = some next) : next.timeline.IsArmed := by
  obtain ⟨k, line, acts, watching, tap, -, -, rfl⟩ := exists_of_stepFrom made
  intro other member
  obtain ⟨j, here⟩ := List.getElem?_of_mem member
  simp only [List.getElem?_modify, Option.map_eq_map, Option.map_eq_some_iff] at here
  obtain ⟨before, here, rfl⟩ := here
  have kept := armed before (List.mem_of_getElem? here)
  split
  · exact kept
  · exact kept

private theorem rests_advance (made : run.advance? = some next) (armed : run.timeline.IsArmed)
    (still : run.timeline.IsStill) : next.timeline.IsArmed ∧ next.timeline.IsStill := by
  cases advances_of_advance made with
  | step stepped => exact ⟨(isArmed_stepFrom armed stepped).settle, Timeline.isStill_settle _⟩
  | heed => exact ⟨armed, still⟩
  | wait onward => exact ⟨armed.advance onward, still.advance onward⟩

private theorem rests_settle (armed : run.timeline.IsArmed) (still : run.timeline.IsStill)
    (fuel : Nat) :
    (settle advance? fuel run).timeline.IsArmed ∧ (settle advance? fuel run).timeline.IsStill := by
  have begun : run.timeline.IsArmed ∧ run.timeline.IsStill := ⟨armed, still⟩
  exact settle_induction (P := fun run : Run => run.timeline.IsArmed ∧ run.timeline.IsStill)
    (fun _ _ rests made => rests_advance made rests.1 rests.2) begun fuel

end Run

namespace Scene

variable {s t u : Scene} {run : Run}

/-- Some turns lead to this. -/
private def Leads (s t : Scene) : Prop := ∃ turns, s.run turns = t

private theorem Leads.refl (s : Scene) : s.Leads s := ⟨[], rfl⟩

private theorem Leads.trans (first : s.Leads t) (second : t.Leads u) : s.Leads u := by
  obtain ⟨turns, rfl⟩ := first
  obtain ⟨more, rfl⟩ := second
  exact ⟨turns ++ more, List.foldl_append ..⟩

private theorem leads_of_step (turn : Turn) (made : s.step? turn = some t) : s.Leads t := by
  refine ⟨[turn], ?_⟩
  simp [run, pursue, made]

private theorem leads_of_stirs {l m : Forwarder.Scene .transfer} (here : s.lines[i]? = some l)
    (stirs : Relation.ReflTransGen Forwarder.Scene.Stirs l m) :
    s.Leads { s with lines := s.lines.set i m } := by
  have within : i < s.lines.length := (List.getElem?_eq_some_iff.1 here).1
  induction stirs with
  | refl =>
    have same : s.lines.set i l = s.lines := by
      rw [← (List.getElem?_eq_some_iff.1 here).2, List.set_getElem_self]
    rw [same]
    exact .refl s
  | @tail m n _ stir ih =>
    have there : (s.lines.set i m)[i]? = some m := List.getElem?_set_self within
    refine ih.trans ?_
    cases stir with
    | outside act =>
      refine leads_of_step (.outside i act) ?_
      simp [step?, there, put]
    | @part p f made =>
      refine leads_of_step (.part i p) ?_
      simp [step?, there, made, put]

/-- A watch at a node, which has shown the same as the scene. The feeds and forwarders may have gone
on since. -/
structure Tracks (s : Scene) (run : Run) : Prop where
  watching : run.watching = s.watching
  marked : Timeline.Marked Forwarder.Scene.Leads s.lines run.timeline.lines
  acts : run.acts = s.shown.map Prod.snd

private theorem Tracks.stepFrom (tracks : s.Tracks run) (free : run.watching.isInterrupted = false)
    {next : Run} (made : run.stepFrom? 0 run.timeline.lines = some next) :
    ∃ t, s.Leads t ∧ t.Tracks next := by
  obtain ⟨k, line, acts, watching, tap, here, stepped, rfl⟩ := Run.exists_of_stepFrom made
  rw [Nat.zero_add] at stepped ⊢
  obtain ⟨l, mark, m, stirs, shows⟩ := tracks.marked.exists_mark here
  have within : k < s.lines.length := (List.getElem?_eq_some_iff.1 mark).1
  rw [shows.same, tracks.watching] at stepped
  obtain ⟨contract, status, status', g, -, -, rfl, steps⟩ :=
    steps_of_step (tracks.watching ▸ free) stepped
  let caught : Scene := { s with lines := s.lines.set k m }
  have taken : caught.step? (.watch k) =
      some (caught.put k watching { m with forwarder := g } acts) := by
    have there : (s.lines.set k m)[k]? = some m := List.getElem?_set_self within
    simp [caught, step?, there, stepped]
  refine ⟨_, (leads_of_stirs mark stirs).trans (leads_of_step _ taken), rfl, ?_, ?_⟩
  · change Timeline.Marked _ ((s.lines.set k m).set k { m with forwarder := g }) _
    rw [List.set_set]
    obtain ⟨feed, stage, room⟩ := steps.keeps
    refine tracks.marked.set here ⟨_, .refl, rfl, ?_, ?_, ?_, ?_⟩
    · exact feed.symm ▸ shows.serves
    · exact feed.symm ▸ shows.feedRoom
    · exact room.symm ▸ shows.sinkRoom
    · intro result stopping
      have told := shows.telling result (stage.symm.trans stopping)
      exact feed.symm ▸ told
  · simp [caught, put, tracks.acts, Function.comp_def]

private theorem Tracks.advance (tracks : s.Tracks run) (free : run.watching.isInterrupted = false)
    {next : Run} (made : run.advance? = some next) :
    next.watching.isInterrupted = true ∨ ∃ t, s.Leads t ∧ t.Tracks next := by
  cases Run.advances_of_advance made with
  | step stepped =>
    obtain ⟨t, leads, tracks⟩ := tracks.stepFrom free stepped
    exact Or.inr ⟨t, leads, tracks.watching,
      tracks.marked.settle Forwarder.Scene.isKept_leads, tracks.acts⟩
  | heed => exact Or.inl rfl
  | wait onward =>
    exact Or.inr ⟨s, .refl s, tracks.watching,
      tracks.marked.advance Forwarder.Scene.isKept_leads onward, tracks.acts⟩

private theorem Tracks.settle (tracks : s.Tracks run) (fuel : Nat) :
    (NameRights.settle Run.advance? fuel run).watching.isInterrupted = true ∨
      ∃ t, s.Leads t ∧ t.Tracks (NameRights.settle Run.advance? fuel run) := by
  refine settle_induction (P := fun run : Run => run.watching.isInterrupted = true ∨
    ∃ t, s.Leads t ∧ t.Tracks run) ?_ (Or.inr ⟨s, .refl s, tracks⟩) fuel
  rintro run next (interrupted | ⟨t, leads, tracks⟩) made
  · exact Or.inl (Run.isInterrupted_advance made interrupted)
  · cases interrupted : run.watching.isInterrupted with
    | true => exact Or.inl (Run.isInterrupted_advance made interrupted)
    | false =>
      refine (tracks.advance interrupted made).imp_right ?_
      rintro ⟨u, onward, tracks⟩
      exact ⟨u, leads.trans onward, tracks⟩

private theorem exists_lines_of_marked {marks : List (Forwarder.Scene .transfer)}
    {lines : List (Line .transfer)}
    (marked : Timeline.Marked Forwarder.Scene.Leads marks lines) {s : Scene}
    (front : List (Forwarder.Scene .transfer)) (whole : s.lines = front ++ marks) :
    ∃ last, s.Leads { s with lines := front ++ last } ∧
      Timeline.Marked Forwarder.Scene.Shows last lines := by
  induction marked generalizing s front with
  | nil =>
    refine ⟨[], ?_, .nil⟩
    rw [← whole]
    exact .refl s
  | @cons l line marks lines leads _ ih =>
    obtain ⟨m, stirs, shows⟩ := leads
    have here : s.lines[front.length]? = some l := by simp [whole]
    have first := leads_of_stirs here stirs
    have moved : s.lines.set front.length m = (front ++ [m]) ++ marks := by simp [whole]
    obtain ⟨last, rest, shown⟩ := ih (s := { s with lines := s.lines.set front.length m })
      (front ++ [m]) moved
    refine ⟨m :: last, first.trans ?_, .cons shows shown⟩
    simpa using rest

/-- A watch at a node just as the scene has it. -/
structure Shows (s : Scene) (run : Run) : Prop where
  watching : run.watching = s.watching
  marked : Timeline.Marked Forwarder.Scene.Shows s.lines run.timeline.lines
  acts : run.acts = s.shown.map Prod.snd

private theorem Tracks.exists_shows (tracks : s.Tracks run) : ∃ t, s.Leads t ∧ t.Shows run := by
  obtain ⟨last, leads, shown⟩ := exists_lines_of_marked tracks.marked [] rfl
  exact ⟨_, leads, tracks.watching, shown, tracks.acts⟩

private theorem taps_of_marked {marks : List (Forwarder.Scene .transfer)}
    {lines : List (Line .transfer)}
    (marked : Timeline.Marked Forwarder.Scene.Shows marks lines) :
    lines.map Line.tap = marks.map fun l => .decoded l.forwarder := by
  induction marked with
  | nil => rfl
  | cons first _ ih => rw [List.map_cons, List.map_cons, first.same, ih]

variable {event : Abi.Event} {contracts : List Contract}

/-- Where neither the watch nor time goes on, no forwarder is left: the watch would receive what
fills a sink, a poller that has something to wait for has an alarm, and an interruption would be
heeded. -/
private theorem Holds.gone_of_stopped (holds : s.Holds event contracts) (shows : s.Shows run)
    (armed : run.timeline.IsArmed) (still : run.timeline.IsStill)
    (waits : ∀ i, s.step? (.watch i) = none) (stopped : run.timeline.advance? = none)
    (unheeded : run.timeline.clock.isInterrupted = true → s.watching.isListening = false) :
    ∀ l ∈ s.lines, l.forwarder.stage = .gone := by
  obtain ⟨quiet, come⟩ := Timeline.quiet_of_advance stopped
  intro l member
  obtain ⟨i, mark⟩ := List.getElem?_of_mem member
  obtain ⟨line, here, shown⟩ := shows.marked.exists_line mark
  obtain ⟨contract, status, outlet⟩ := holds.exists_outlet mark
  have stands := holds.stands i contract status l outlet mark
  have settled : line.IsStill := still line (List.mem_of_getElem? here)
  obtain ⟨poller, forwarder⟩ : line.poller.step? l.forwarder.feed = none ∧
      l.forwarder.step? = none := by
    obtain ⟨poller, forwarder⟩ := settled
    rw [shown.same] at poller forwarder
    exact ⟨poller, Option.map_eq_none_iff.1 forwarder⟩
  by_cases listening : status = .listening
  · subst listening
    rcases (armed line (List.mem_of_getElem? here)).phase_of_still settled
        (quiet line (List.mem_of_getElem? here)) with interrupts | phase
    · have deaf := unheeded (come interrupts)
      simp only [isListening, holds.free, Bool.not_false, Bool.true_and, List.any_eq_false] at deaf
      exact absurd (decide_eq_true rfl) (deaf _ (List.mem_of_getElem? outlet))
    · have empty := (open_of_waits holds.free outlet (holds.stuck mark (waits i))).1
      rcases shown.gone_or_full poller forwarder phase with gone | ⟨-, full⟩
      · exact gone
      · exact absurd empty full
  · exact stands.gone_of_waits listening forwarder

private theorem Holds.isOver_of_stopped (holds : s.Holds event contracts) (shows : s.Shows run)
    (armed : run.timeline.IsArmed) (still : run.timeline.IsStill) (stopped : run.advance? = none) :
    s.watching.isOver = true := by
  unfold Run.advance? at stopped
  cases stepped : run.stepFrom? 0 run.timeline.lines with
  | some after => simp [stepped] at stopped
  | none =>
    have waits (i : Nat) : s.step? (.watch i) = none := by
      cases mark : s.lines[i]? with
      | none => simp [step?, mark]
      | some l =>
        obtain ⟨line, here, shown⟩ := shows.marked.exists_line mark
        have stuck := Run.waits_of_stepFrom stepped here
        rw [Nat.zero_add, shows.watching, shown.same] at stuck
        simp [step?, mark, stuck]
    simp only [stepped, shows.watching] at stopped
    split at stopped
    · rename_i ended
      exact ended
    · split at stopped
      · cases stopped
      · rename_i unheeded
        refine holds.isOver_of_still ?_ waits
        refine holds.gone_of_stopped shows armed still waits (Option.map_eq_none_iff.1 stopped) ?_
        intro interrupted
        simpa [interrupted] using unheeded

end Scene

end Watching

namespace Command

open Watching

private theorem eq_declaration_of_watchEvents {contract : Contract} {kind : EventKind}
    (declared : contract.event kind.name = .ok kind.declaration) {address : Address}
    {choices : EventKind.Choices kind.slots} {options : WatchOptions} {event : Abi.Event}
    {filter : String}
    (yielded : (Client.watchEvents address contract kind choices options).Yields (event, filter)) :
    event = kind.declaration := by
  unfold Client.watchEvents at yielded
  rw [Client.eventFilter_declared declared, Session.yields_bind] at yielded
  obtain ⟨_, rfl, yielded⟩ := yielded
  obtain ⟨_, -, same⟩ := (Session.yields_bind _ _ _).1 yielded
  cases same
  rfl

private theorem eq_declaration_of_watch {contract : Contract} {address : Address}
    {options : WatchOptions} {event : Abi.Event} {filter : String}
    (yielded : (watchTransfers options address contract).Yields (event, filter)) :
    event = EventKind.transfer.declaration := by
  cases contract with
  | registry =>
    exact @eq_declaration_of_watchEvents .registry .transfer rfl _ _ _ _ _ yielded
  | privilege =>
    exact @eq_declaration_of_watchEvents .privilege .transfer rfl _ _ _ _ _ yielded

private theorem marked_of_open {options : WatchOptions} {contracts : List (Contract × Address)}
    {t timeline : Timeline .transfer} {marks : List (Forwarder.Scene .transfer)}
    (opened : openWatches options contracts t = (.ok (), timeline))
    (marked : Timeline.Marked Forwarder.Scene.Leads marks t.lines) (armed : t.IsArmed) :
    Timeline.Marked Forwarder.Scene.Leads
        (marks ++ contracts.map fun _ => .start EventKind.transfer.declaration
          (max options.logBuffer 1) defaultLogBuffer) timeline.lines ∧
      timeline.IsArmed := by
  induction contracts generalizing t marks with
  | nil =>
    cases opened
    rw [List.map_nil, List.append_nil]
    exact ⟨marked, armed⟩
  | cons entry contracts ih =>
    obtain ⟨contract, address⟩ := entry
    let session := Node.serve (watchTransfers options address contract)
    have asked := marked.converse Forwarder.Scene.isKept_leads session
    have armed := armed.converse session
    unfold openWatches at opened
    split at opened
    · cases opened
    · cases opened
    · rename_i event filter t' answered
      rw [answered] at asked armed
      obtain rfl := eq_declaration_of_watch (Session.yields_of_refine
        (Timeline.yields_of_converse (congrArg Prod.fst answered)))
      let line := transfers options EventKind.transfer.declaration filter t'.clock
      have first : Timeline.Marked Forwarder.Scene.Leads
          [.start EventKind.transfer.declaration (max options.logBuffer 1) defaultLogBuffer]
          [line] :=
        .cons ⟨_, .refl, Forwarder.Scene.shows_start filter _
          (Nat.lt_of_lt_of_le Nat.one_pos (Nat.le_max_right _ _)) (by decide)⟩ .nil
      have all : Timeline.IsArmed { t' with lines := t'.lines ++ [line] } := by
        intro other member
        rcases List.mem_append.1 member with before | new
        · exact armed other before
        · cases List.mem_singleton.1 new
          exact ⟨_, rfl⟩
      have rest := ih opened (List.rel_append asked first) all
      rwa [List.append_assoc] at rest

private theorem warns_warnings (contract : Contract) (result : Except ContractError Unit) :
    Warns contract.name result (warnings contract (Feed.failureOf result)) := by
  cases result with
  | ok ended => exact .ended
  | error e => exact .failed e

private theorem exists_shown {s : Scene} {event : Abi.Event} {contracts : List Contract}
    (holds : s.Holds event contracts) (ended : s.watching.isOver = true) {i : Nat}
    {contract : Contract} (known : contracts[i]? = some contract) :
    ∃ line result title texts warned, s.lines[i]? = some line ∧
      line.forwarder.stage = .gone ∧ line.result = some result ∧ Titles contract title ∧
      List.Forall₂ (ShowsTransfer title) line.pushed texts ∧ Warns title result warned ∧
      s.shownOf i = texts.map .print ++ warned := by
  have within : i < s.lines.length := by
    rw [holds.paired]
    exact (List.getElem?_eq_some_iff.1 known).1
  have here : s.lines[i]? = some s.lines[i] := List.getElem?_eq_getElem within
  obtain ⟨gone, result, decided, shown⟩ := holds.concluded ended known here
  refine ⟨_, result, _, _, _, here, gone, decided, titles_name contract,
    forall₂_map_line (showsTransfer_line contract) _, warns_warnings contract result, ?_⟩
  rw [shown, List.map_map]
  rfl

section Opened

variable {context : Context} {fromBlock : Option Count} {script : Script}
  {timeline : Timeline .transfer}

private theorem watch_eq_performance (known : watched context ≠ [])
    (opened : openWatches ⟨fromBlock, context.pollInterval, defaultLogBuffer⟩ (watched context)
      ⟨.start script, []⟩ = (.ok (), timeline)) :
    watch context fromBlock script = Run.performance (settle Run.advance? Timeline.patience
      ⟨.start ((watched context).map Prod.fst), timeline.settle, []⟩) := by
  unfold watch
  split
  · rename_i none
    exact absurd none known
  · simp only [opened]

private theorem tracks_opened
    (opened : openWatches ⟨fromBlock, context.pollInterval, defaultLogBuffer⟩ (watched context)
      ⟨.start script, []⟩ = (.ok (), timeline)) :
    timeline.IsArmed ∧
      (Scene.start ((watched context).map Prod.fst) EventKind.transfer.declaration defaultLogBuffer
        defaultLogBuffer).Tracks
          ⟨.start ((watched context).map Prod.fst), timeline.settle, []⟩ := by
  obtain ⟨marked, armed⟩ := marked_of_open opened .nil fun _ none => nomatch none
  refine ⟨armed, rfl, ?_, rfl⟩
  change Timeline.Marked _ (((watched context).map Prod.fst).map fun _ => _) _
  rw [List.map_map]
  exact marked.settle Forwarder.Scene.isKept_leads

end Opened

/-- Contracts are watched, each through a feed and a forwarder of its own, and all of them and the
watch go on in any order. The watch is not over before every forwarder has ended. By then it has
shown of each contract the transfers that its forwarder pushed, each once and in their order, and
after them, once and under the contract's name, its failure if it has failed; and it fails if and
only if one of them has failed. When all forwarders have ended, every step of the watch brings it
closer to its end, which it reaches.

What a watch at a node does, once all contracts could be opened and if nobody interrupts, is done in
one of these orders; and where it stops it is over. -/
theorem watch_course :
    (∀ (contracts : List Contract) (event : Abi.Event) (feedCapacity sinkCapacity : Nat)
        (turns : List Turn),
      let s := (Scene.start contracts event feedCapacity sinkCapacity).run turns
      (s.watching.isOver = true →
        (∀ i contract, contracts[i]? = some contract →
          ∃ line result title texts warned, s.lines[i]? = some line ∧
            line.forwarder.stage = .gone ∧ line.result = some result ∧ Titles contract title ∧
            List.Forall₂ (ShowsTransfer title) line.pushed texts ∧ Warns title result warned ∧
            s.shownOf i = texts.map .print ++ warned) ∧
        ((∃ line ∈ s.lines, ∃ e, line.result = some (.error e)) →
          s.watching.result = .error .watchFailed) ∧
        ((¬ ∃ line ∈ s.lines, ∃ e, line.result = some (.error e)) →
          s.watching.result = .ok ())) ∧
      ((∀ line ∈ s.lines, line.forwarder.stage = .gone) →
        (∀ i t, s.step? (.watch i) = some t → t.left < s.left) ∧
        ((∀ i, s.step? (.watch i) = none) → s.watching.isOver = true))) ∧
    ∀ (context : Context) (fromBlock : Option Count) (script : Script)
        (timeline : Timeline .transfer), watched context ≠ [] →
      openWatches ⟨fromBlock, context.pollInterval, defaultLogBuffer⟩ (watched context)
        ⟨.start script, []⟩ = (.ok (), timeline) →
      let contracts := (watched context).map Prod.fst
      let run := settle Watching.Run.advance? Timeline.patience
        ⟨.start contracts, timeline.settle, []⟩
      watch context fromBlock script = run.performance ∧
      (run.watching.isInterrupted = false →
        (run.advance? = none → run.watching.isOver = true) ∧
        ∃ turns,
          let s := (Scene.start contracts EventKind.transfer.declaration defaultLogBuffer
            defaultLogBuffer).run turns
          run.watching = s.watching ∧
          (run.timeline.lines.map Line.tap = s.lines.map fun line => .decoded line.forwarder) ∧
          run.acts = s.shown.map Prod.snd) := by
  refine ⟨?_, ?_⟩
  · intro contracts event feedCapacity sinkCapacity turns s
    have holds : s.Holds event contracts :=
      (Scene.holds_start contracts event feedCapacity sinkCapacity).run turns
    refine ⟨fun ended => ⟨fun i contract => exists_shown holds ended, ?_, ?_⟩,
      fun gone => ⟨fun i t => holds.left_watch, holds.isOver_of_still gone⟩⟩
    · intro failed
      rw [Watching.result, if_pos ((holds.hasFailed_iff ended).2 failed)]
    · intro sound
      rw [Watching.result, if_neg fun failed => sound ((holds.hasFailed_iff ended).1 failed)]
  · intro context fromBlock script timeline known opened contracts run
    refine ⟨watch_eq_performance known opened, fun free => ?_⟩
    obtain ⟨armed, tracks⟩ := tracks_opened opened
    obtain ⟨armed, still⟩ : run.timeline.IsArmed ∧ run.timeline.IsStill :=
      Run.rests_settle armed.settle (Timeline.isStill_settle timeline) _
    rcases tracks.settle Timeline.patience with interrupted | ⟨t, leads, tracked⟩
    · cases free.symm.trans interrupted
    · obtain ⟨last, onward, shows⟩ := tracked.exists_shows
      obtain ⟨turns, rfl⟩ := leads.trans onward
      have holds := (Scene.holds_start contracts EventKind.transfer.declaration defaultLogBuffer
        defaultLogBuffer).run turns
      refine ⟨fun stopped => ?_, turns, shows.watching, Scene.taps_of_marked shows.marked,
        shows.acts⟩
      rw [shows.watching]
      exact holds.isOver_of_stopped shows armed still stopped

private def bothWatched : Context :=
  ⟨some (.replicate 0x11), some (.replicate 0x22), none, none, none, [], 2000, .absent⟩

private def transferLog : Log :=
  ⟨.replicate 0x11, [EventKind.transfer.topic, ⟨0⟩, ⟨0xaa⟩, ⟨1⟩], [], none, some 7, none, none, none,
    none, none, none⟩

/-- A node that makes two filters, has one log for the first of them, and then fails. -/
private def failingNode : Script where
  queues :=
    [("eth_newFilter", [⟨some (.ok (.text "0x1")), 0, false⟩, ⟨some (.ok (.text "0x2")), 0, false⟩]),
     ("eth_getFilterChanges:0x1", [⟨some (.ok (.list [Form.ofLog transferLog])), 0, false⟩])]
  otherwise := fun _ => ⟨some (.error (.transportCode 404)), 0, false⟩

private def failingOpening : Outcome ContractError Unit × Timeline .transfer :=
  openWatches ⟨none, bothWatched.pollInterval, defaultLogBuffer⟩ (watched bothWatched)
    ⟨.start failingNode, []⟩

private theorem opened_failing : failingOpening = (.ok (), failingOpening.2) := by
  have first : (match failingOpening.1 with | .ok () => true | _ => false) = true := by
    decide +kernel
  cases led : failingOpening.1 with
  | ok ended => exact Prod.ext led rfl
  | error e =>
    rw [led] at first
    cases first
  | aborted reason =>
    rw [led] at first
    cases first

private def failingRun : Watching.Run :=
  settle Watching.Run.advance? Timeline.patience
    ⟨.start ((watched bothWatched).map Prod.fst), failingOpening.2.settle, []⟩

private theorem outcome_failingRun :
    (failingRun.watching.isInterrupted, failingRun.advance?.isNone, failingRun.performance.printed,
      failingRun.performance.warned) =
      (false, true,
        "DcnRegistry Transfer from=0x0000000000000000000000000000000000000000 " ++
          "to=0x00000000000000000000000000000000000000aa token=1 block=Some(7)\n",
        "DcnRegistry watch failed: Blockchain error: `code 404`\n" ++
          "MultiPrivilege watch failed: Blockchain error: `code 404`\n") := by
  decide +kernel

/-- Both contracts are watched at a node that has a transfer of one and then fails with both. -/
theorem watch_failing :
    watched bothWatched ≠ [] ∧
    openWatches ⟨none, bothWatched.pollInterval, defaultLogBuffer⟩ (watched bothWatched)
      ⟨.start failingNode, []⟩ = (.ok (), failingOpening.2) ∧
    failingRun.watching.isInterrupted = false ∧ failingRun.watching.isOver = true ∧
    (∃ turns,
      let s := (Scene.start ((watched bothWatched).map Prod.fst) EventKind.transfer.declaration
        defaultLogBuffer defaultLogBuffer).run turns
      failingRun.watching = s.watching ∧ failingRun.acts = s.shown.map Prod.snd) ∧
    (watch bothWatched none failingNode).printed =
      "DcnRegistry Transfer from=0x0000000000000000000000000000000000000000 " ++
        "to=0x00000000000000000000000000000000000000aa token=1 block=Some(7)\n" ∧
    (watch bothWatched none failingNode).warned =
      "DcnRegistry watch failed: Blockchain error: `code 404`\n" ++
        "MultiPrivilege watch failed: Blockchain error: `code 404`\n" := by
  have known : watched bothWatched ≠ [] := List.cons_ne_nil _ _
  have course := watch_course.2 bothWatched none failingNode failingOpening.2 known opened_failing
  have performed : watch bothWatched none failingNode = failingRun.performance := course.1
  have outcome := outcome_failingRun
  simp only [Prod.mk.injEq] at outcome
  obtain ⟨free, stopped, printed, warned⟩ := outcome
  obtain ⟨ended, turns, watching, -, acts⟩ := course.2 free
  rw [performed]
  exact ⟨known, opened_failing, free, ended (Option.isNone_iff_eq_none.1 stopped),
    ⟨turns, watching, acts⟩, printed, warned⟩

end Command

end NameRights
