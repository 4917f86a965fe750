/- NameRights/Proofs/Keccak
   digest: The sponge on five rows of five lanes, a form in which digests are worked out. -/

import NameRights.Keccak

set_option autoImplicit false
set_option relaxedAutoImplicit false

namespace NameRights.Keccak

/-- The lanes of one row, column by column. -/
structure Row where
  a : UInt64
  b : UInt64
  c : UInt64
  d : UInt64
  e : UInt64

/-- The lanes of the sponge, row by row. -/
structure Rows where
  a : Row
  b : Row
  c : Row
  d : Row
  e : Row

namespace Row

def add : Row → Row → Row
  | ⟨a, b, c, d, e⟩, ⟨a', b', c', d', e'⟩ =>
    ⟨a ^^^ a', b ^^^ b', c ^^^ c', d ^^^ d', e ^^^ e'⟩

/-- What every column takes up when the row holds the parities of the columns. -/
def neighbours : Row → Row
  | ⟨a, b, c, d, e⟩ =>
    ⟨e ^^^ rotate b 1, a ^^^ rotate c 1, b ^^^ rotate d 1, c ^^^ rotate e 1, d ^^^ rotate a 1⟩

def turn (m n o p q : Nat) : Row → Row
  | ⟨a, b, c, d, e⟩ => ⟨rotate a m, rotate b n, rotate c o, rotate d p, rotate e q⟩

/-- The part of the step that is not linear that concerns one row. -/
private def mix : Row → Row
  | ⟨a, b, c, d, e⟩ =>
    ⟨a ^^^ ((b ^^^ 0xFFFFFFFFFFFFFFFF) &&& c), b ^^^ ((c ^^^ 0xFFFFFFFFFFFFFFFF) &&& d),
     c ^^^ ((d ^^^ 0xFFFFFFFFFFFFFFFF) &&& e), d ^^^ ((e ^^^ 0xFFFFFFFFFFFFFFFF) &&& a),
     e ^^^ ((a ^^^ 0xFFFFFFFFFFFFFFFF) &&& b)⟩

end Row

namespace Rows

def state : Rows → State
  | ⟨⟨a, b, c, d, e⟩, ⟨f, g, h, i, j⟩, ⟨k, l, m, n, o⟩, ⟨p, q, r, s, t⟩, ⟨u, v, w, x, y⟩⟩ =>
    #[a, b, c, d, e, f, g, h, i, j, k, l, m, n, o, p, q, r, s, t, u, v, w, x, y]

def build (f : Nat → Nat → UInt64) : Rows :=
  let row (y : Nat) : Row := ⟨f 0 y, f 1 y, f 2 y, f 3 y, f 4 y⟩
  ⟨row 0, row 1, row 2, row 3, row 4⟩

def mixColumns : Rows → Rows
  | ⟨a, b, c, d, e⟩ =>
    let taken := ((((a.add b).add c).add d).add e).neighbours
    ⟨a.add taken, b.add taken, c.add taken, d.add taken, e.add taken⟩

def turn : Rows → Rows
  | ⟨a, b, c, d, e⟩ =>
    ⟨a.turn 0 1 62 28 27, b.turn 36 44 6 55 20, c.turn 3 10 43 25 39, d.turn 41 45 15 21 8,
     e.turn 18 2 61 56 14⟩

def move : Rows → Rows
  | ⟨⟨a, b, c, d, e⟩, ⟨f, g, h, i, j⟩, ⟨k, l, m, n, o⟩, ⟨p, q, r, s, t⟩, ⟨u, v, w, x, y⟩⟩ =>
    ⟨⟨a, g, m, s, y⟩, ⟨d, j, k, q, w⟩, ⟨b, h, n, t, u⟩, ⟨e, f, l, r, x⟩, ⟨c, i, o, p, v⟩⟩

def mixRows : Rows → Rows
  | ⟨a, b, c, d, e⟩ => ⟨a.mix, b.mix, c.mix, d.mix, e.mix⟩

def addConstant (constant : UInt64) : Rows → Rows
  | ⟨⟨a, b, c, d, e⟩, p, q, r, s⟩ => ⟨⟨a ^^^ constant, b, c, d, e⟩, p, q, r, s⟩

def round (s : Rows) (constant : UInt64) : Rows :=
  addConstant constant (mixRows (move (turn (mixColumns s))))

def permute (s : Rows) : Rows := roundConstants.foldl round s

def absorb (s : Rows) (block : Bytes) : Rows :=
  let lanes := ((Bytes.chunks 8 block).map laneOfBytes).toArray
  permute (build fun x y => lane s.state x y ^^^ lanes.getD (x + 5 * y) 0)

end Rows

private theorem build_eq (f : Nat → Nat → UInt64) : build f = (Rows.build f).state := by
  apply Array.ext'
  rw [build, Array.toList_ofFn]
  rfl

private theorem ofFn_five (f : Nat → UInt64) :
    Array.ofFn (fun x : Fin 5 => f x) = #[f 0, f 1, f 2, f 3, f 4] := by
  apply Array.ext'
  rw [Array.toList_ofFn]
  rfl

private theorem mixColumns_state (s : Rows) : mixColumns s.state = s.mixColumns.state := by
  rw [mixColumns, build_eq, ofFn_five fun x => lane _ x 0 ^^^ lane _ x 1 ^^^ lane _ x 2 ^^^
    lane _ x 3 ^^^ lane _ x 4]
  simp [Rows.build, Rows.mixColumns, Rows.state, Row.add, Row.neighbours, lane, UInt64.xor_assoc]

private theorem scatter_state (s : Rows) : scatter s.state = s.turn.move.state := by
  rw [scatter, build_eq]
  simp [Rows.build, Rows.turn, Rows.move, Rows.state, Row.turn, rotations, lane]

private theorem mixRows_state (s : Rows) : mixRows s.state = s.mixRows.state := by
  rw [mixRows, build_eq]
  rfl

private theorem modify_state (s : Rows) (constant : UInt64) :
    s.state.modify 0 (· ^^^ constant) = (s.addConstant constant).state := by
  simp [Rows.addConstant, Rows.state]

private theorem round_state (s : Rows) (constant : UInt64) :
    round s.state constant = (s.round constant).state := by
  rw [round, mixColumns_state, scatter_state, mixRows_state, modify_state, Rows.round]

private theorem permute_state (s : Rows) : permute s.state = s.permute.state := by
  rw [permute, Rows.permute]
  generalize roundConstants = constants
  induction constants generalizing s with
  | nil => rfl
  | cons constant constants ih => rw [List.foldl_cons, List.foldl_cons, round_state, ih]

private theorem absorb_state (s : Rows) (block : Bytes) :
    absorb s.state block = (s.absorb block).state := by
  rw [absorb, build_eq, permute_state, Rows.absorb]

theorem hash_eq (message : Bytes) : hash message =
    (((Bytes.chunks rate (pad message)).foldl Rows.absorb
      (.build fun _ _ => 0)).state.toList.flatMap bytesOfLane).take 32 := by
  rw [hash, build_eq]
  generalize Rows.build (fun _ _ => 0) = start
  generalize Bytes.chunks rate (pad message) = blocks
  have absorbed : blocks.foldl absorb start.state = (blocks.foldl Rows.absorb start).state := by
    induction blocks generalizing start with
    | nil => rfl
    | cons block blocks ih => rw [List.foldl_cons, List.foldl_cons, absorb_state, ih]
  rw [absorbed]

end NameRights.Keccak
