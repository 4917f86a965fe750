/- NameRights/Proofs/Command/Watching
   digest: In whatever order the watched contracts' feeds move and end, the watch shows every
   transfer that is pushed once and in order, warns of every failure once, and ends after all. -/

import Mathlib.Algebra.BigOperators.Group.List.Basic
import Mathlib.Algebra.GroupWithZero.Nat
import NameRights.Command.Watch
import NameRights.Proofs.Feed.Attendance

set_option autoImplicit false
set_option relaxedAutoImplicit false

namespace NameRights

namespace Watching

def transferAct (contract : Contract) (r : Transfer) : Act :=
  .print (transferLine contract r ++ "\n")

private def failureAct (contract : Contract) (e : ContractError) : Act :=
  .warn (failureLine contract e ++ "\n")

def warnings (contract : Contract) (failure : Option ContractError) : List Act :=
  (failure.map (failureAct contract)).toList

def isWarning : Act → Bool
  | .warn _ => true
  | .print _ | .send _ => false

/-- The watch at another place with one contract, after it has shown something. -/
def entered (w : Watching) (index : Nat) (status : Status) (acts : List Act) : Watching :=
  { w.enter index status with hasFailed := w.hasFailed || acts.any isWarning }

variable {w v : Watching} {i : Nat} {f : Forwarder .transfer} {contract : Contract}

private theorem enter_self {status : Status} (here : w.outlets[i]? = some (contract, status)) :
    w.enter i status = w := by
  obtain ⟨outlets, isInterrupted, hasFailed⟩ := w
  have same : outlets.modify i (fun entry => (entry.1, status)) = outlets := by
    apply List.ext_getElem?
    intro j
    rw [List.getElem?_modify]
    split
    · rename_i there
      subst there
      have here : outlets[i]? = some (contract, status) := here
      simp only [here, Option.map_eq_map, Option.map_some]
    · simp
  exact congrArg (Watching.mk · isInterrupted hasFailed) same

private theorem entered_self {status : Status} (here : w.outlets[i]? = some (contract, status)) :
    w.entered i status [] = w := by
  rw [entered, enter_self here, List.any_nil, Bool.or_false]

/-- All that the watch can do with a contract while nobody interrupts: where it stands before and
after, what it shows, and what becomes of the forwarder. -/
inductive Steps (w : Watching) (i : Nat) (f : Forwarder .transfer) (contract : Contract) :
    Status → Status → List Act → Forwarder .transfer → Prop
  | receive {r : Transfer} {sink : Channel Transfer} (popped : f.sink.pop? = some (r, sink)) :
      Steps w i f contract .listening .listening [transferAct contract r] { f with sink }
  | close (empty : f.sink.items = [])
      (closed : f.sink.hasSender = false ∨ f.sink.hasReceiver = false) :
      Steps w i f contract .listening .silent [] f
  | conclude {failure : Option ContractError} {handle : Subscription}
      (turn : w.mayConclude i = true) (verdict : f.handle.verdict? = some (failure, handle)) :
      Steps w i f contract .silent .quitting (warnings contract failure)
        { f with handle := handle.tell }
  | join {handle : Subscription} (joined : f.handle.join? = some handle) :
      Steps w i f contract .quitting .joined [] { f with handle }

theorem steps_of_step (free : w.isInterrupted = false) {acts : List Act} {tap : Tap .transfer}
    (made : w.step? i (.decoded f) = some (acts, v, tap)) :
    ∃ contract status status' g, w.outlets[i]? = some (contract, status) ∧
      v = w.entered i status' acts ∧ tap = .decoded g ∧
      Steps w i f contract status status' acts g := by
  have unfailed (status : Status) : w.enter i status = w.entered i status [] := by
    simp only [entered, List.any_nil, Bool.or_false]
    rfl
  unfold step? at made
  split at made
  · cases made
  · cases made
  · rename_i contract here
    obtain ⟨tap', settled, made⟩ := Option.map_eq_some_iff.1 made
    obtain ⟨handle, joined, same⟩ := Option.map_eq_some_iff.1 settled
    cases same
    cases made
    exact ⟨contract, .quitting, .joined, _, here, unfailed _, rfl, .join joined⟩
  · rename_i contract here
    unfold conclude? at made
    split at made
    · cases made
    · rename_i turn
      have turn : w.mayConclude i = true := by simpa using turn
      simp only [free, Bool.false_eq_true, if_false] at made
      obtain ⟨⟨failure, tap'⟩, given, made⟩ := Option.map_eq_some_iff.1 made
      obtain ⟨⟨failure', handle⟩, verdict, same⟩ := Option.map_eq_some_iff.1 given
      cases same
      have step : Steps w i f contract .silent .quitting (warnings contract failure)
          { f with handle := handle.tell } := .conclude turn verdict
      refine ⟨contract, .silent, .quitting, { f with handle := handle.tell }, here, ?_⟩
      cases failure with
      | none =>
        cases made
        exact ⟨unfailed _, rfl, step⟩
      | some e =>
        cases made
        refine ⟨?_, rfl, step⟩
        simp [entered, isWarning]
  · rename_i contract here
    simp only [free, Bool.false_eq_true, if_false] at made
    obtain ⟨⟨item, tap'⟩, received, made⟩ := Option.map_eq_some_iff.1 made
    unfold Tap.receive? at received
    simp only at received
    cases popped : f.sink.pop? with
    | some entry =>
      obtain ⟨r, sink⟩ := entry
      rw [popped] at received
      cases received
      cases made
      refine ⟨contract, .listening, .listening, _, here, ?_, rfl, .receive popped⟩
      rw [entered, enter_self here]
      simp [isWarning]
    | none =>
      rw [popped] at received
      simp only at received
      split at received
      · cases received
      · rename_i shut
        cases received
        cases made
        have closed := Bool.and_eq_false_iff.1 (Bool.eq_false_iff.2 shut)
        have empty := Channel.pop?_eq_none_iff.1 popped
        exact ⟨contract, .listening, .silent, f, here, unfailed _, rfl, .close empty closed⟩

/-- A watch that listens waits only for what a forwarder may still push. -/
theorem open_of_waits (free : w.isInterrupted = false)
    (outlet : w.outlets[i]? = some (contract, .listening))
    (waits : w.step? i (.decoded f) = none) : f.sink.items = [] ∧ f.sink.hasSender = true := by
  simp only [step?, outlet, free, Bool.false_eq_true, if_false, Option.map_eq_none_iff,
    Tap.receive?] at waits
  cases popped : f.sink.pop? with
  | some entry => simp [popped] at waits
  | none =>
    refine ⟨Channel.pop?_eq_none_iff.1 popped, ?_⟩
    cases sender : f.sink.hasSender with
    | true => rfl
    | false => simp [popped, sender] at waits

/-- A contract with which the watch is through: its forwarder is gone, and all that it has pushed
has been shown, and then its failure, if it failed. -/
def Concluded (contract : Contract) (line : Forwarder.Scene .transfer) (shown : List Act) : Prop :=
  line.forwarder.stage = .gone ∧ ∃ result, line.result = some result ∧
    shown = line.pushed.map (transferAct contract) ++ warnings contract (Feed.failureOf result)

/-- What holds of a contract by where the watch stands with it. While it listens, what has been
pushed is shown or in the sink. -/
def Stands (event : Abi.Event) (contract : Contract) (line : Forwarder.Scene .transfer)
    (shown : List Act) : Status → Prop
  | .listening => Forwarder.Attended event line ∧ ∃ records,
      shown = records.map (transferAct contract) ∧
        records ++ line.forwarder.sink.items = line.pushed
  | .silent => Forwarder.Attended event line ∧ line.forwarder.stage.isOpen = false ∧
      line.forwarder.sink.items = [] ∧ shown = line.pushed.map (transferAct contract)
  | .quitting => Concluded contract line shown ∧ line.forwarder.handle.isRunning = false
  | .joined => Concluded contract line shown

section Stands

variable {event : Abi.Event} {line : Forwarder.Scene .transfer} {shown acts : List Act}
  {status status' : Status} {g : Forwarder .transfer}

private theorem Stands.outside (stands : Stands event contract line shown status) (act : Feed.Act) :
    Stands event contract (line.step (.outside act)) shown status := by
  cases status with
  | listening => exact ⟨stands.1.outside act, stands.2⟩
  | silent => exact ⟨stands.1.outside act, stands.2⟩
  | quitting => exact stands
  | joined => exact stands

private theorem Stands.part (stands : Stands event contract line shown status) {p : Forwarder.Part}
    (made : line.forwarder.part? p = some g) :
    Stands event contract (line.moved g) shown status := by
  have through {P : Prop} (gone : line.forwarder.stage = .gone) : P := by
    have decided : line.forwarder.stage ≠ .forwarding := fun here => nomatch gone.symm.trans here
    rcases Forwarder.leaves_of_part decided made with ⟨result, -, here, -⟩ | ⟨result, here, -⟩
    · cases gone.symm.trans here
    · cases gone.symm.trans here
  cases status with
  | listening =>
    obtain ⟨attended, records, shown, queued⟩ := stands
    obtain ⟨new, items⟩ := (Forwarder.keeps_of_part made).items
    refine ⟨attended.part made, records, shown, ?_⟩
    change records ++ g.sink.items =
      line.pushed ++ g.sink.items.drop line.forwarder.sink.items.length
    rw [← queued, ← items, List.drop_left, List.append_assoc]
  | silent =>
    obtain ⟨attended, closed, empty, shown⟩ := stands
    have decided : line.forwarder.stage ≠ .forwarding := by
      intro forwarding
      rw [forwarding] at closed
      cases closed
    have items := (Forwarder.sink_of_leave decided (Forwarder.step?_of_part decided made)).2
    refine ⟨attended.part made, ?_, items.trans empty, ?_⟩
    · rcases Forwarder.leaves_of_part decided made with ⟨result, -, stopping, -⟩ | ⟨result, -, rfl⟩
      · rw [stopping] at closed
        cases closed
      · rfl
    · rw [Forwarder.Scene.pushed_moved items]
      exact shown
  | quitting => exact through stands.1.1
  | joined => exact through stands.1

/-- The step lemma of the watch: what is received is shown; nothing is left in a sink that is closed
and empty; and a verdict is shown if it is a failure. -/
private theorem Stands.steps (stands : Stands event contract line shown status)
    (made : Steps w i line.forwarder contract status status' acts g) :
    Stands event contract { line with forwarder := g } (shown ++ acts) status' := by
  cases made with
  | @receive r sink popped =>
    obtain ⟨attended, records, shown, queued⟩ := stands
    obtain ⟨items, -⟩ := Channel.pop?_eq_some_iff.1 popped
    refine ⟨attended.withSink popped, records ++ [r], ?_, ?_⟩
    · rw [shown, List.map_append]
      rfl
    · change (records ++ [r]) ++ sink.items = line.pushed
      rw [← queued, items, List.append_assoc, List.singleton_append]
  | close empty closed =>
    obtain ⟨attended, records, shown, queued⟩ := stands
    rw [empty, List.append_nil] at queued
    rw [List.append_nil, shown, queued]
    refine ⟨attended, ?_, empty, rfl⟩
    rcases closed with unsent | unheard
    · exact attended.sender.symm.trans unsent
    · cases unheard.symm.trans attended.heard
  | conclude turn verdict =>
    obtain ⟨attended, -, -, shown⟩ := stands
    obtain ⟨gone, stopped, result, decided, rfl⟩ := attended.verdict verdict
    refine ⟨⟨gone, result, decided, ?_⟩, stopped⟩
    rw [shown]
  | join joined =>
    rw [List.append_nil]
    exact stands.1

/-- Once the watch listens no longer, the forwarder has closed its sink and waits for nothing. -/
theorem Stands.gone_of_waits (stands : Stands event contract line shown status)
    (unheard : status ≠ .listening) (waits : line.forwarder.step? = none) :
    line.forwarder.stage = .gone := by
  cases status with
  | listening => exact absurd rfl unheard
  | silent =>
    have closed := stands.2.1
    cases stage : line.forwarder.stage with
    | forwarding =>
      rw [stage] at closed
      cases closed
    | stopping result =>
      rw [stage] at closed
      cases closed
    | leaving result => simp [Forwarder.step?, stage] at waits
    | gone => rfl
  | quitting => exact stands.1.1
  | joined => exact stands.1

end Stands

/-- What happens while contracts are watched: an act on a contract's feed from outside, a part of
its forwarder's step, or a step of the watch with it. -/
inductive Turn where
  | outside (index : Nat) (act : Feed.Act)
  | part (index : Nat) (part : Forwarder.Part)
  | watch (index : Nat)

/-- A watch at work, with the course of each contract's forwarder and all that has been shown, with
the place of the contract that it is about. -/
structure Scene where
  watching : Watching
  lines : List (Forwarder.Scene .transfer)
  shown : List (Nat × Act)

namespace Scene

def start (contracts : List Contract) (event : Abi.Event) (feedCapacity sinkCapacity : Nat) :
    Scene :=
  ⟨.start contracts, contracts.map fun _ => .start event feedCapacity sinkCapacity, []⟩

/-- What has been shown of one contract. -/
def shownOf (s : Scene) (index : Nat) : List Act :=
  (s.shown.filter (·.1 == index)).map Prod.snd

def put (s : Scene) (index : Nat) (watching : Watching) (line : Forwarder.Scene .transfer)
    (acts : List Act) : Scene :=
  ⟨watching, s.lines.set index line, s.shown ++ acts.map fun act => (index, act)⟩

/-- A turn, if it can be taken. -/
def step? (s : Scene) : Turn → Option Scene
  | .outside index act =>
    s.lines[index]?.map fun line => s.put index s.watching (line.step (.outside act)) []
  | .part index part =>
    s.lines[index]?.bind fun line =>
      (line.forwarder.part? part).map fun f => s.put index s.watching (line.moved f) []
  | .watch index =>
    s.lines[index]?.bind fun line =>
      match s.watching.step? index (.decoded line.forwarder) with
      | some (acts, watching, .decoded forwarder) =>
        some (s.put index watching { line with forwarder } acts)
      | _ => none

def run (s : Scene) (turns : List Turn) : Scene := pursue step? s turns

structure Holds (event : Abi.Event) (contracts : List Contract) (s : Scene) : Prop where
  free : s.watching.isInterrupted = false
  named : s.watching.outlets.map Prod.fst = contracts
  paired : s.lines.length = contracts.length
  stands : ∀ i contract status line, s.watching.outlets[i]? = some (contract, status) →
    s.lines[i]? = some line → Stands event contract line (s.shownOf i) status
  placed : ∀ entry ∈ s.shown, entry.1 < contracts.length
  warned : s.watching.hasFailed = s.shown.any fun entry => isWarning entry.2

variable {event : Abi.Event} {contracts : List Contract} {s t : Scene}
  {line line' : Forwarder.Scene .transfer} {status status' : Status} {acts : List Act}

theorem holds_start (contracts : List Contract) (event : Abi.Event)
    (feedCapacity sinkCapacity : Nat) :
    (start contracts event feedCapacity sinkCapacity).Holds event contracts := by
  refine ⟨rfl, ?_, List.length_map .., ?_, fun _ none => (nomatch none), rfl⟩
  · simp [start, Watching.start, Function.comp_def]
  · intro i contract status line outlet here
    have listening : status = .listening := by
      simp only [start, Watching.start, List.getElem?_map, Option.map_eq_some_iff] at outlet
      obtain ⟨_, -, same⟩ := outlet
      cases same
      rfl
    have begun : line = .start event feedCapacity sinkCapacity := by
      simp only [start, List.getElem?_map, Option.map_eq_some_iff] at here
      obtain ⟨_, -, same⟩ := here
      exact same.symm
    rw [listening, begun]
    exact ⟨Forwarder.attended_start event feedCapacity sinkCapacity, [], rfl, rfl⟩

private theorem shownOf_put (i j : Nat) (watching : Watching) (line : Forwarder.Scene .transfer)
    (acts : List Act) : (s.put i watching line acts).shownOf j =
      if i = j then s.shownOf j ++ acts else s.shownOf j := by
  simp only [shownOf, put, List.filter_append, List.map_append]
  split
  · rename_i same
    subst same
    have all : (acts.map fun act => (i, act)).filter (·.1 == i) = acts.map fun act => (i, act) := by
      simp
    rw [all, List.map_map]
    simp [Function.comp_def]
  · rename_i other
    have none : (acts.map fun act => (i, act)).filter (·.1 == j) = [] := by
      simp [other]
    rw [none, List.map_nil, List.append_nil]

private theorem outlets_entered (outlet : s.watching.outlets[i]? = some (contract, status))
    (j : Nat) :
    (s.watching.entered i status' acts).outlets[j]? =
      if i = j then some (contract, status') else s.watching.outlets[j]? := by
  simp only [entered, enter, List.getElem?_modify]
  split
  · rename_i same
    subst same
    simp [outlet]
  · simp

private theorem Holds.put (holds : s.Holds event contracts)
    (outlet : s.watching.outlets[i]? = some (contract, status)) (here : s.lines[i]? = some line)
    (stands : Stands event contract line' (s.shownOf i ++ acts) status') :
    (s.put i (s.watching.entered i status' acts) line' acts).Holds event contracts := by
  have within : i < s.lines.length := (List.getElem?_eq_some_iff.1 here).1
  refine ⟨holds.free, ?_, ?_, ?_, ?_, ?_⟩
  · rw [← holds.named]
    apply List.ext_getElem?
    intro j
    rw [List.getElem?_map, List.getElem?_map]
    change Option.map Prod.fst (s.watching.entered i status' acts).outlets[j]? = _
    rw [outlets_entered outlet]
    split
    · rename_i same
      subst same
      rw [outlet]
      rfl
    · rfl
  · exact List.length_set.trans holds.paired
  · intro j contract' status'' line'' outlet' here'
    rw [shownOf_put]
    have outlet' : (s.watching.entered i status' acts).outlets[j]? = some (contract', status'') :=
      outlet'
    have here' : (s.lines.set i line')[j]? = some line'' := here'
    rw [outlets_entered outlet] at outlet'
    rw [List.getElem?_set] at here'
    by_cases same : i = j
    · subst same
      simp only [if_true, if_pos within] at outlet' here' ⊢
      cases outlet'
      cases here'
      exact stands
    · simp only [if_neg same] at outlet' here' ⊢
      exact holds.stands j contract' status'' line'' outlet' here'
  · intro entry member
    rcases List.mem_append.1 member with before | new
    · exact holds.placed entry before
    · obtain ⟨act, -, rfl⟩ := List.mem_map.1 new
      exact holds.paired ▸ within
  · change (s.watching.hasFailed || acts.any isWarning) = _
    rw [holds.warned]
    simp [Scene.put, List.any_append, List.any_map, Function.comp_def]

theorem Holds.exists_outlet (holds : s.Holds event contracts) (here : s.lines[i]? = some line) :
    ∃ contract status, s.watching.outlets[i]? = some (contract, status) := by
  have within : i < s.lines.length := (List.getElem?_eq_some_iff.1 here).1
  have count : s.watching.outlets.length = contracts.length := by
    rw [← holds.named, List.length_map]
  have within' : i < s.watching.outlets.length := by
    rw [count, ← holds.paired]
    exact within
  exact ⟨_, _, List.getElem?_eq_getElem within'⟩

private theorem Holds.putLine (holds : s.Holds event contracts) (here : s.lines[i]? = some line)
    (kept : ∀ contract status, Stands event contract line (s.shownOf i) status →
      Stands event contract line' (s.shownOf i) status) :
    (s.put i s.watching line' []).Holds event contracts := by
  obtain ⟨contract, status, outlet⟩ := holds.exists_outlet here
  have stands : Stands event contract line' (s.shownOf i ++ []) status := by
    rw [List.append_nil]
    exact kept contract status (holds.stands i contract status line outlet here)
  have next := holds.put outlet here stands
  rwa [entered_self outlet] at next

private theorem Holds.step (holds : s.Holds event contracts) {turn : Turn}
    (made : s.step? turn = some t) :
    t.Holds event contracts := by
  cases turn with
  | outside i act =>
    obtain ⟨line, here, rfl⟩ := Option.map_eq_some_iff.1 made
    exact holds.putLine here fun _ _ stands => stands.outside act
  | part i part =>
    obtain ⟨line, here, made⟩ := Option.bind_eq_some_iff.1 made
    obtain ⟨f, moved, rfl⟩ := Option.map_eq_some_iff.1 made
    exact holds.putLine here fun _ _ stands => stands.part moved
  | watch i =>
    obtain ⟨line, here, made⟩ := Option.bind_eq_some_iff.1 made
    split at made
    · rename_i acts watching f stepped
      cases made
      obtain ⟨contract, status, status', g, outlet, rfl, same, steps⟩ :=
        steps_of_step holds.free stepped
      cases same
      exact holds.put outlet here
        ((holds.stands i contract status line outlet here).steps steps)
    · cases made

theorem Holds.run (holds : s.Holds event contracts) (turns : List Turn) :
    (s.run turns).Holds event contracts :=
  pursue_induction (fun _ _ _ holds made => Holds.step holds made) holds turns

private theorem Holds.exists_line (holds : s.Holds event contracts)
    (outlet : s.watching.outlets[i]? = some (contract, status)) :
    ∃ line, s.lines[i]? = some line := by
  have within : i < s.watching.outlets.length := (List.getElem?_eq_some_iff.1 outlet).1
  have count : s.watching.outlets.length = s.lines.length := by
    rw [holds.paired, ← holds.named, List.length_map]
  exact ⟨_, List.getElem?_eq_getElem (count ▸ within)⟩

/-! When the watch is over. -/

theorem Holds.concluded (holds : s.Holds event contracts) (ended : s.watching.isOver = true)
    (known : contracts[i]? = some contract) (here : s.lines[i]? = some line) :
    Concluded contract line (s.shownOf i) := by
  obtain ⟨contract', status, outlet⟩ := holds.exists_outlet here
  have same : contract' = contract := by
    rw [← holds.named, List.getElem?_map, outlet] at known
    exact Option.some.inj known
  have joined : status = .joined := by
    have all := List.all_eq_true.1 ended _ (List.mem_of_getElem? outlet)
    simpa using all
  have stands := holds.stands i contract' status line outlet here
  rw [joined, same] at stands
  exact stands

theorem Holds.hasFailed_iff (holds : s.Holds event contracts) (ended : s.watching.isOver = true) :
    s.watching.hasFailed = true ↔ ∃ line ∈ s.lines, ∃ e, line.result = some (.error e) := by
  rw [holds.warned, List.any_eq_true]
  constructor
  · rintro ⟨⟨i, act⟩, member, warning⟩
    have within : i < contracts.length := holds.placed _ member
    have within' : i < s.lines.length := holds.paired.symm ▸ within
    have here : s.lines[i]? = some s.lines[i] := List.getElem?_eq_getElem within'
    obtain ⟨-, result, decided, shown⟩ :=
      holds.concluded ended (List.getElem?_eq_getElem within) here
    have told : act ∈ s.shownOf i := by
      apply List.mem_map.2
      exact ⟨(i, act), List.mem_filter.2 ⟨member, beq_self_eq_true i⟩, rfl⟩
    rw [shown, List.mem_append] at told
    refine ⟨s.lines[i], List.getElem_mem within', ?_⟩
    rcases told with printed | warned
    · obtain ⟨r, -, rfl⟩ := List.mem_map.1 printed
      cases warning
    · cases result with
      | ok u => cases warned
      | error e => exact ⟨e, decided⟩
  · rintro ⟨line, member, e, failed⟩
    obtain ⟨i, here⟩ := List.getElem?_of_mem member
    have within : i < contracts.length := by
      rw [← holds.paired]
      exact (List.getElem?_eq_some_iff.1 here).1
    obtain ⟨-, result, decided, shown⟩ :=
      holds.concluded ended (List.getElem?_eq_getElem within) here
    cases failed.symm.trans decided
    have told : failureAct contracts[i] e ∈ s.shownOf i := by
      rw [shown]
      exact List.mem_append_right _ (List.mem_singleton_self _)
    obtain ⟨entry, listed, same⟩ := List.mem_map.1 told
    refine ⟨entry, (List.mem_filter.1 listed).1, ?_⟩
    rw [same]
    rfl

/-! How the watch goes on. -/

/-- What is left to do with a contract, by where the watch stands with it. -/
def rank : Status → Nat
  | .listening => 3
  | .silent => 2
  | .quitting => 1
  | .joined => 0

/-- What the watch has yet to do if the forwarders push nothing more. -/
def left (s : Scene) : Nat :=
  (List.zipWith (fun outlet line => rank outlet.2 + line.forwarder.sink.items.length)
    s.watching.outlets s.lines).sum

private theorem sum_zipWith_lt {α β : Type} {weight : α → β → Nat} {change : α → α} {l : List α}
    {m : List β} {i : Nat} {a : α} {b b' : β} (first : l[i]? = some a) (second : m[i]? = some b)
    (less : weight (change a) b' < weight a b) :
    (List.zipWith weight (l.modify i change) (m.set i b')).sum < (List.zipWith weight l m).sum := by
  induction l generalizing m i with
  | nil => cases first
  | cons x l ih =>
    cases m with
    | nil => cases second
    | cons y m =>
      cases i with
      | zero =>
        cases first
        cases second
        simp only [List.modify_zero_cons, List.set_cons_zero, List.zipWith_cons_cons,
          List.sum_cons]
        omega
      | succ i =>
        have rest := ih (m := m) (i := i) first second
        simp only [List.modify_succ_cons, List.set_cons_succ, List.zipWith_cons_cons,
          List.sum_cons]
        omega

theorem Holds.left_watch (holds : s.Holds event contracts) (made : s.step? (.watch i) = some t) :
    t.left < s.left := by
  obtain ⟨line, here, made⟩ := Option.bind_eq_some_iff.1 made
  split at made
  · rename_i acts watching f stepped
    cases made
    obtain ⟨contract, status, status', g, outlet, rfl, same, steps⟩ :=
      steps_of_step holds.free stepped
    cases same
    refine sum_zipWith_lt outlet here ?_
    cases steps with
    | receive popped =>
      rw [(Channel.pop?_eq_some_iff.1 popped).1, List.length_cons]
      exact Nat.add_lt_add_left (Nat.lt_succ_self _) _
    | close empty closed => exact Nat.add_lt_add_right (Nat.lt_succ_self 2) _
    | conclude turn verdict => exact Nat.add_lt_add_right (Nat.lt_succ_self 1) _
    | join joined => exact Nat.add_lt_add_right (Nat.lt_succ_self 0) _
  · cases made

theorem Holds.stuck (holds : s.Holds event contracts) (here : s.lines[i]? = some line)
    (still : s.step? (.watch i) = none) :
    s.watching.step? i (.decoded line.forwarder) = none := by
  cases stepped : s.watching.step? i (.decoded line.forwarder) with
  | none => rfl
  | some entry =>
    obtain ⟨acts, watching, tap⟩ := entry
    obtain ⟨contract, status, status', g, -, -, rfl, -⟩ := steps_of_step holds.free stepped
    simp [step?, here, stepped] at still

/-- When all forwarders are gone, the watch goes on until it is over. -/
theorem Holds.isOver_of_still (holds : s.Holds event contracts)
    (gone : ∀ line ∈ s.lines, line.forwarder.stage = .gone)
    (still : ∀ i, s.step? (.watch i) = none) : s.watching.isOver = true := by
  have unheard (i : Nat) (contract : Contract) :
      s.watching.outlets[i]? ≠ some (contract, .listening) := by
    intro outlet
    obtain ⟨line, here⟩ := holds.exists_line outlet
    have stuck := holds.stuck here (still i)
    have stands := holds.stands i contract .listening line outlet here
    have sender := (open_of_waits holds.free outlet stuck).2
    rw [stands.1.sender, gone line (List.mem_of_getElem? here)] at sender
    cases sender
  have silent : s.watching.isListening = false := by
    simp only [isListening, holds.free, Bool.not_false, Bool.true_and, List.any_eq_false]
    intro outlet member
    obtain ⟨i, here⟩ := List.getElem?_of_mem member
    have other : outlet.2 ≠ .listening := by
      intro listening
      apply unheard i outlet.1
      rw [here, ← listening]
    simpa using other
  have joined (i : Nat) : ∀ outlet, s.watching.outlets[i]? = some outlet → outlet.2 = .joined := by
    induction i using Nat.strongRecOn with
    | ind i before =>
      rintro ⟨contract, status⟩ outlet
      obtain ⟨line, here⟩ := holds.exists_line outlet
      have stuck := holds.stuck here (still i)
      have stands := holds.stands i contract status line outlet here
      cases status with
      | joined => rfl
      | listening => exact absurd outlet (unheard i contract)
      | silent =>
        have turn : s.watching.mayConclude i = true := by
          simp only [mayConclude, silent, Bool.not_false, Bool.true_and, List.all_eq_true]
          intro earlier member
          obtain ⟨j, there⟩ := List.getElem?_of_mem member
          rw [List.getElem?_take] at there
          split at there
          · rename_i less
            simpa using before j less earlier there
          · cases there
        have shown := stands.1.scene.shown
        rw [gone line (List.mem_of_getElem? here)] at shown
        simp only [Watching.step?, outlet, conclude?, turn, holds.free, Bool.not_true,
          Bool.false_eq_true, if_false, Option.map_eq_none_iff, Tap.verdict?] at stuck
        cases shown.1.symm.trans (Subscription.verdict?_eq_none_iff.1 stuck).2
      | quitting =>
        have stopped := stands.2
        simp [Watching.step?, outlet, Tap.join?, Tap.handle, Subscription.join?, stopped] at stuck
  rw [isOver, List.all_eq_true]
  intro outlet member
  obtain ⟨i, here⟩ := List.getElem?_of_mem member
  simpa using joined i outlet here

end Scene

end Watching

end NameRights
