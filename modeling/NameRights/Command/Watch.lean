/- NameRights/Command/Watch
   digest: Printing the transfers of the contracts as they happen. -/

import NameRights.Command.Events
import NameRights.Node.Timeline

set_option autoImplicit false
set_option relaxedAutoImplicit false

namespace NameRights

/-- Where a watch stands with one contract: it listens for transfers, or none will come any more, or
it has told the forwarder to quit, or has joined it. -/
inductive Watching.Status where
  | listening
  | silent
  | quitting
  | joined
  deriving Repr, DecidableEq

/-- A watch of several contracts: where it stands with each, whether the operator has interrupted
it, and whether a failure was warned of. -/
structure Watching where
  outlets : List (Contract × Watching.Status)
  isInterrupted : Bool
  hasFailed : Bool
  deriving Repr

namespace Watching

def transferLine (contract : Contract) (r : Transfer) : String :=
  contract.name ++ " Transfer from=" ++ r.source.hex ++ " to=" ++ r.target.hex ++ " token=" ++
    r.tokenId.decimal ++ " block=" ++ Command.blockText r.raw.blockNumber

def failureLine (contract : Contract) (e : ContractError) : String :=
  contract.name ++ " watch failed: " ++ e.message

def start (contracts : List Contract) : Watching :=
  ⟨contracts.map fun contract => (contract, .listening), false, false⟩

def isListening (w : Watching) : Bool :=
  !w.isInterrupted && w.outlets.any fun (_, status) => status = .listening

def isOver (w : Watching) : Bool := w.outlets.all fun (_, status) => status = .joined

/-- Whether it is a contract's turn to be concluded: the watch listens no longer, and is through
with the contracts before. -/
def mayConclude (w : Watching) (index : Nat) : Bool :=
  !w.isListening && (w.outlets.take index).all fun (_, status) => status = .joined

def enter (index : Nat) (status : Status) (w : Watching) : Watching :=
  { w with outlets := w.outlets.modify index fun (contract, _) => (contract, status) }

/-- Concludes with a contract: its forwarder's failure is warned of, unless the operator has
interrupted, and it is told to quit. -/
def conclude? (w : Watching) (index : Nat) (contract : Contract) (tap : Tap .transfer) :
    Option (List Act × Watching × Tap .transfer) :=
  if !w.mayConclude index then none
  else if w.isInterrupted then some ([], w.enter index .quitting, tap.tell)
  else tap.verdict?.map fun (failure, tap) =>
    match failure with
    | none => ([], w.enter index .quitting, tap.tell)
    | some e =>
      ([.warn (failureLine contract e ++ "\n")], { w.enter index .quitting with hasFailed := true },
        tap.tell)

def step? (w : Watching) (index : Nat) (tap : Tap .transfer) :
    Option (List Act × Watching × Tap .transfer) :=
  match w.outlets[index]? with
  | none | some (_, .joined) => none
  | some (_, .quitting) => tap.join?.map fun tap => ([], w.enter index .joined, tap)
  | some (contract, .silent) => w.conclude? index contract tap
  | some (contract, .listening) =>
    if w.isInterrupted then w.conclude? index contract tap
    else tap.receive?.map fun (item, tap) =>
      match item with
      | some (.record r) => ([.print (transferLine contract r ++ "\n")], w, tap)
      | _ => ([], w.enter index .silent, tap)

def result (w : Watching) : Outcome CommandFault Unit :=
  if w.hasFailed then .error .watchFailed else .ok ()

end Watching

/-- A watch at a node, with what it has done so far. -/
structure Watching.Run where
  watching : Watching
  timeline : Timeline .transfer
  acts : List Act

namespace Watching.Run

/-- The first step that can be taken with a contract, from one on. -/
def stepFrom? (run : Run) (index : Nat) : List (Line .transfer) → Option Run
  | [] => none
  | line :: lines =>
    match run.watching.step? index line.tap with
    | some (acts, watching, tap) =>
      some ⟨watching, { run.timeline with
        lines := run.timeline.lines.modify index fun line => { line with tap } }, run.acts ++ acts⟩
    | none => run.stepFrom? (index + 1) lines

/-- The watch goes on as far as it gets without time. If it cannot go on, the operator's
interruption is looked at, and then time goes on. -/
def advance? (run : Run) : Option Run :=
  match run.stepFrom? 0 run.timeline.lines with
  | some run => some { run with timeline := run.timeline.settle }
  | none =>
    if run.watching.isOver then none
    else if run.watching.isListening && run.timeline.clock.isInterrupted then
      some { run with watching := { run.watching with isInterrupted := true } }
    else run.timeline.advance?.map fun timeline => { run with timeline }

def performance (run : Run) : Performance :=
  .ofActs (run.acts ++ run.timeline.clock.asked.map .send) run.watching.result

end Watching.Run

namespace Command

def watched (context : Context) : List (Contract × Address) :=
  (context.registry.map fun address => (Contract.registry, address)).toList ++
    (context.privilege.map fun address => (Contract.privilege, address)).toList

def transfers (options : WatchOptions) (event : Abi.Event) (filter : String) (clock : Clock) :
    Line .transfer :=
  .start filter options.pollInterval
    (.decoded (.start event (.started (max options.logBuffer 1)) defaultLogBuffer)) clock

def watchTransfers (options : WatchOptions) (address : Address) :
    Contract → Dialogue (Abi.Event × String)
  | .registry => Registry.watch address (.transfer [] [] []) options
  | .privilege => Privilege.watch address (.transfer [] [] []) options

/-- Opens a watch of the transfers of contracts, one after the other. -/
def openWatches (options : WatchOptions) :
    List (Contract × Address) → Timeline .transfer → Outcome ContractError Unit × Timeline .transfer
  | [], t => (.ok (), t)
  | (contract, address) :: rest, t =>
    match t.converse (Node.serve (watchTransfers options address contract)) with
    | (.error e, t) => (.error e, t)
    | (.aborted reason, t) => (.aborted reason, t)
    | (.ok (event, filter), t) =>
      openWatches options rest { t with lines := t.lines ++ [transfers options event filter t.clock] }

/-- Watches the transfers of all known contracts, until the operator interrupts or all watches have
ended. -/
def watch (context : Context) (fromBlock : Option Count) (script : Script) : Performance :=
  match watched context with
  | [] => .ofActs [] (.error .bothMissing)
  | contracts =>
    let options : WatchOptions := ⟨fromBlock, context.pollInterval, defaultLogBuffer⟩
    let (opened, timeline) := openWatches options contracts ⟨.start script, []⟩
    match opened with
    | .error e => .ofActs (timeline.clock.asked.map .send) (.error (.contract e))
    | .aborted reason => .ofActs (timeline.clock.asked.map .send) (.aborted reason)
    | .ok () =>
      let run : Watching.Run := ⟨.start (contracts.map Prod.fst), timeline.settle, []⟩
      (settle Watching.Run.advance? Timeline.patience run).performance

end Command

end NameRights
