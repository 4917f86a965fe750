/- NameRights/Node/Timeline
   digest: Pollers and their taps in the course of time, with a node whose answers are prepared. -/

import NameRights.Feed.Rehearsal
import NameRights.Node.Poller
import NameRights.Node.Script

set_option autoImplicit false
set_option relaxedAutoImplicit false

namespace NameRights

/-- What a poller waits for: the end of its rest, or an answer. -/
inductive Stimulus where
  | wake
  | reply (reply : Reply)
  deriving Repr

/-- The time, in milliseconds, with the node, the requests it has been sent, and the time at which
the operator interrupts, if that is known. -/
structure Clock where
  now : Nat
  script : Script
  asked : List Request
  interruption : Option Nat

namespace Clock

def start (script : Script) : Clock := ⟨0, script, [], none⟩

/-- Sends a request: when the answer will be there, and what it is, if it comes at all. -/
def ask (r : Request) (clock : Clock) : Option (Nat × Stimulus) × Clock :=
  let (prepared, script) := clock.script.answer r
  let due := clock.now + prepared.delay
  let clock := { clock with script, asked := clock.asked ++ [r] }
  match prepared.reply with
  | some reply => (some (due, .reply reply), clock)
  | none => (none, { clock with interruption := clock.interruption.orElse fun _ => some due })

def isInterrupted (clock : Clock) : Bool := clock.interruption.any (decide <| · ≤ clock.now)

end Clock

/-- A poller with its interval, the tap on its feed, and when it is stimulated next. -/
structure Line (kind : EventKind) where
  poller : Poller
  interval : Nat
  tap : Tap kind
  alarm : Option (Nat × Stimulus)

namespace Line

variable {kind : EventKind}

def start (filter : String) (interval : Nat) (tap : Tap kind) (clock : Clock) : Line kind :=
  ⟨.start filter, interval, tap, some (clock.now + interval, .wake)⟩

/-- The alarm after a poller's step: a rest begins, an answer is awaited, or nothing else is. -/
def alarmAfter (line : Line kind) (poller : Poller) (clock : Clock) : Option (Nat × Stimulus) :=
  match poller.phase with
  | .resting => some (clock.now + line.interval, .wake)
  | .leaving _ => none
  | _ => line.alarm

def step? : Clock × Line kind → Option (Clock × Line kind)
  | (clock, line) =>
    match line.poller.step? line.tap.feed with
    | some (none, poller, feed) =>
      some (clock, { line with poller, tap := line.tap.withFeed feed,
                               alarm := line.alarmAfter poller clock })
    | some (some request, poller, feed) =>
      let (alarm, clock) := clock.ask request
      some (clock, { line with poller, tap := line.tap.withFeed feed, alarm })
    | none => line.tap.step?.map fun tap => (clock, { line with tap })

def work (line : Line kind) : Nat := 3 * line.poller.work + line.tap.work

def settle (clock : Clock) (line : Line kind) : Clock × Line kind :=
  NameRights.settle step? line.work (clock, line)

def stir (clock : Clock) (line : Line kind) : Clock × Line kind :=
  match line.alarm with
  | none => (clock, line)
  | some (due, stimulus) =>
    if clock.now < due then (clock, line)
    else match stimulus with
    | .reply reply =>
      let (poller, feed) := line.poller.hear reply line.tap.feed
      settle clock { line with poller, tap := line.tap.withFeed feed, alarm := none }
    | .wake =>
      match line.poller.wake? with
      | none => (clock, { line with alarm := none })
      | some (request, poller) =>
        let (alarm, clock) := clock.ask request
        settle clock { line with poller, alarm }

end Line

/-- Several lines at one node. -/
structure Timeline (kind : EventKind) where
  clock : Clock
  lines : List (Line kind)

namespace Timeline

variable {kind : EventKind}

def each (f : Clock → Line kind → Clock × Line kind) : Clock → List (Line kind) → Timeline kind
  | clock, [] => ⟨clock, []⟩
  | clock, line :: lines =>
    let (clock, line) := f clock line
    let t := each f clock lines
    ⟨t.clock, line :: t.lines⟩

def settle (t : Timeline kind) : Timeline kind := each Line.settle t.clock t.lines

def dues (t : Timeline kind) : List Nat :=
  t.lines.filterMap (·.alarm.map Prod.fst) ++ (t.clock.interruption.filter (t.clock.now < ·)).toList

def advance? (t : Timeline kind) : Option (Timeline kind) :=
  t.dues.min?.map fun due => each Line.stir { t.clock with now := max t.clock.now due } t.lines

/-- Lets time go on until something is seen, `fuel` times at most. -/
def await {α : Type} (look : Timeline kind → Option (α × Timeline kind)) :
    Nat → Timeline kind → Option α × Timeline kind
  | 0, t => (none, t)
  | fuel + 1, t =>
    match look t with
    | some (a, t) => (some a, t)
    | none =>
      match t.advance? with
      | some t => await look fuel t
      | none => (none, t)

def patience : Nat := 100000

def runUntil (due : Nat) : Nat → Timeline kind → Timeline kind
  | 0, t => t
  | fuel + 1, t =>
    if t.dues.any (decide <| · ≤ due) then
      match t.advance? with
      | some t => runUntil due fuel t
      | none => t
    else { t with clock := { t.clock with now := max t.clock.now due } }

/-- Runs an exchange with the node while the lines go on. -/
def converse {ε α : Type} :
    Session Request (fun _ => Reply) ε α → Timeline kind → Outcome ε α × Timeline kind
  | .done x, t => (x, t)
  | .ask request next, t =>
    let (answer, clock) := t.clock.ask request
    let t := { t with clock }
    match answer with
    | some (due, .reply reply) => converse (next reply) (t.runUntil due patience)
    | _ => converse (next (.error .unreachable)) t

end Timeline

/-- One line with its consumer, at a node. A dropped handle gives no verdict. -/
structure Line.Rehearsal (kind : EventKind) where
  clock : Clock
  line : Line kind
  isHeld : Bool

namespace Line.Rehearsal

variable {kind : EventKind}

def settle (r : Rehearsal kind) : Rehearsal kind :=
  let (clock, line) := r.line.settle r.clock
  { r with clock, line }

def await {α : Type} (look : Tap kind → Option (α × Tap kind)) (r : Rehearsal kind) :
    Option α × Rehearsal kind :=
  let (answer, t) := Timeline.await
    (fun t => match t.lines with
      | [line] => (look line.tap).map fun (a, tap) => (a, ⟨t.clock, [{ line with tap }]⟩)
      | _ => none)
    Timeline.patience ⟨r.clock, [r.line]⟩
  (answer, { r with clock := t.clock, line := t.lines.headD r.line })

def perform (move : Tap.Move) (r : Rehearsal kind) : Tap.Notice kind × Rehearsal kind :=
  match move with
  | .receive =>
    let (item, r) := r.await Tap.receive?
    (match item with
      | none => .waiting
      | some none => .closed
      | some (some item) => .received item, r)
  | .verdict =>
    if !r.isHeld then (.verdict none, r)
    else
      let (failure, r) := r.await Tap.verdict?
      ((failure.map Tap.Notice.verdict).getD .waiting, r)
  | .unsubscribe =>
    let r := settle { r with line := { r.line with tap := r.line.tap.tell } }
    (.done, (r.await fun tap => tap.join?.map fun tap => ((), tap)).2)
  | .dropHandle => (.done, { r with line := { r.line with tap := r.line.tap.tell }, isHeld := false })
  | .dropReceiver => (.done, { r with line := { r.line with tap := r.line.tap.dropReceiver } })

/-- Makes moves of the consumer, with all run as far as they get at the time after each. -/
def run : List Tap.Move → Rehearsal kind → List (Tap.Notice kind) × Rehearsal kind
  | [], r => ([], r)
  | move :: moves, r =>
    let (notice, r) := r.perform move
    let (notices, r) := r.settle.run moves
    (notice :: notices, r)

end Line.Rehearsal

end NameRights
