/- NameRights/Feed/Rehearsal
   digest: Runs of a cursor or a tap by given moves, with every task run as far as it gets in between. -/

import NameRights.Feed.Cursor
import NameRights.Feed.Tap

set_option autoImplicit false
set_option relaxedAutoImplicit false

namespace NameRights

/-- A cursor and the producer of its feed. -/
structure Cursor.Rehearsal (kind : EventKind) where
  producer : Producer
  cursor : Cursor kind

/-- A move in the rehearsal of a cursor: to the next record, with a move of an outsider if the
cursor has to wait; to take the record; to close; or a move of an outsider. -/
inductive Cursor.Move where
  | next (meanwhile : Option Feed.Move)
  | take
  | close
  | outside (move : Feed.Move)

/-- What a move comes to. To go on to the next record may still be open. -/
inductive Cursor.Notice (kind : EventKind) where
  | next (answer : Option Bool)
  | taken (record : Option kind.Record)
  | closed
  | outside (notice : Feed.Notice)

namespace Cursor.Rehearsal

variable {kind : EventKind}

def step? (r : Rehearsal kind) : Option (Rehearsal kind) :=
  (r.producer.step? r.cursor.feed).map fun (producer, feed) => ⟨producer, { r.cursor with feed }⟩

def settle (r : Rehearsal kind) : Rehearsal kind := NameRights.settle step? r.producer.work r

def next? (r : Rehearsal kind) : Option (Bool × Rehearsal kind) :=
  r.cursor.next?.map fun (answer, cursor) => (answer, { r with cursor })

def outside (move : Feed.Move) (r : Rehearsal kind) : Feed.Notice × Rehearsal kind :=
  let (notice, feed) := r.cursor.feed.perform move
  (notice, { r with cursor := { r.cursor with feed } })

/-- The cursor goes on; if that is open, after the producer, and after an outsider's move. -/
def next (meanwhile : Option Feed.Move) (r : Rehearsal kind) : Option Bool × Rehearsal kind :=
  match r.next? with
  | some (answer, r) => (some answer, r)
  | none =>
    match r.settle.next?, meanwhile with
    | some (answer, r), _ => (some answer, r)
    | none, none => (none, r.settle)
    | none, some move =>
      let r := (r.settle.outside move).2.settle
      match r.next? with
      | some (answer, r) => (some answer, r)
      | none => (none, r)

/-- The cursor is closed, which takes as long as its producer needs to end. -/
def close (r : Rehearsal kind) : Rehearsal kind :=
  let r := settle { r with cursor := r.cursor.beginClose }
  { r with cursor := r.cursor.endClose?.getD r.cursor }

def perform (move : Move) (r : Rehearsal kind) : Notice kind × Rehearsal kind :=
  match move with
  | .next meanwhile =>
    let (answer, r) := r.next meanwhile
    (.next answer, r)
  | .take =>
    let (record, cursor) := r.cursor.take
    (.taken record, { r with cursor })
  | .close => (.closed, r.close)
  | .outside move =>
    let (notice, r) := r.outside move
    (.outside notice, r)

/-- Makes moves, with the producer run after each of them. The cursor after each move is told. -/
def run : List Move → Rehearsal kind → List (Notice kind × Cursor kind)
  | [], _ => []
  | move :: moves, r =>
    let (notice, r) := r.perform move
    (notice, r.settle.cursor) :: r.settle.run moves

end Cursor.Rehearsal

/-- A tap with an idle producer. A dropped handle gives no verdict. -/
structure Tap.Rehearsal (kind : EventKind) where
  tap : Tap kind
  isHeld : Bool

namespace Tap.Rehearsal

variable {kind : EventKind}

def step? (r : Rehearsal kind) : Option (Rehearsal kind) :=
  match Producer.idle.step? r.tap.feed with
  | some (_, feed) => some { r with tap := r.tap.withFeed feed }
  | none => r.tap.step?.map fun tap => { r with tap }

def settle (r : Rehearsal kind) : Rehearsal kind :=
  NameRights.settle step? (r.tap.work + 1) r

def perform (move : Move) (r : Rehearsal kind) : Notice kind × Rehearsal kind :=
  match move with
  | .receive =>
    match r.tap.receive? with
    | none => (.waiting, r)
    | some (item, tap) => ((item.map Notice.received).getD .closed, { r with tap })
  | .verdict =>
    if !r.isHeld then (.verdict none, r)
    else match r.tap.verdict? with
    | none => (.waiting, r)
    | some (failure, tap) => (.verdict failure, { r with tap })
  | .unsubscribe =>
    let r := settle { r with tap := r.tap.tell }
    (.done, { r with tap := r.tap.join?.getD r.tap })
  | .dropHandle => (.done, ⟨r.tap.tell, false⟩)
  | .dropReceiver => (.done, { r with tap := r.tap.dropReceiver })

def outside (move : Feed.Move) (r : Rehearsal kind) : Feed.Notice × Rehearsal kind :=
  let (notice, feed) := r.tap.feed.perform move
  (notice, { r with tap := r.tap.withFeed feed })

/-- Makes moves of outsiders and of the consumer, with all tasks run before and after each. -/
def run : List (Feed.Move ⊕ Move) → Rehearsal kind → List (Feed.Notice ⊕ Notice kind)
  | [], _ => []
  | .inl move :: moves, r =>
    let (notice, r) := r.settle.outside move
    .inl notice :: r.settle.run moves
  | .inr move :: moves, r =>
    let (notice, r) := r.settle.perform move
    .inr notice :: r.settle.run moves

end Tap.Rehearsal

end NameRights
