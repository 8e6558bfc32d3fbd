import Highlight.Regex.Program

/-!
# Searching a text

`Program.search` finds the leftmost match of a compiled program in a text, from a given start
position on, and among the matches that start there the one the program prefers: the backtracking
machine tries the first branch of every `split` before the second and answers the first `accept`
it reaches.  Positions are character indices; assertions see the whole text, also before the
start position.

The machine keeps a set of visited pairs of instruction and position, shared by all start
positions.  A pair seen once is never explored again: from the same instruction and position the
rest of the search is the same, so a second visit can find nothing the first did not, and an
empty round of a loop cannot repeat forever.  At most `insts × (positions + 1)` pairs are visited,
which bounds the work; the number of steps is passed as fuel large enough for that bound.  The
set grows with the positions the search reaches, so a search that stops early costs no more than
the text it read.
-/

namespace Highlight.Regex

/-- One entry of the backtracking stack: an instruction to explore at a position, or a capture
slot to restore when the search backs up over the `save` that changed it. -/
inductive Frame where
  | explore (pc pos : Nat)
  | restore (slot : Nat) (value : Option Nat)
  deriving Inhabited

/-- A set of pairs of instruction and position at or after `origin`: one bit per pair, position
by position, each position's bits for the `insts` instructions together.  Bits beyond the end of
`bits` belong to positions not reached yet and read as unvisited. -/
structure Visited where
  bits : ByteArray
  insts : Nat
  origin : Nat

namespace Visited

def empty (insts origin : Nat) : Visited := ⟨ByteArray.empty, insts, origin⟩

def index (v : Visited) (pc pos : Nat) : Nat := (pos - v.origin) * v.insts + pc

def contains (v : Visited) (pc pos : Nat) : Bool :=
  let i := v.index pc pos
  if h : i / 8 < v.bits.size then (v.bits.get (i / 8) h >>> (i % 8).toUInt8) &&& 1 == 1
  else false

def insert (v : Visited) (pc pos : Nat) : Visited :=
  let i := v.index pc pos
  let bits := if i / 8 < v.bits.size then v.bits
    else v.bits ++ ByteArray.mk (Array.replicate (max (i / 8 + 1 - v.bits.size) v.bits.size) 0)
  if h : i / 8 < bits.size then
    { v with bits := bits.set (i / 8) (bits.get (i / 8) h ||| (1 <<< (i % 8).toUInt8)) h }
  else { v with bits }

end Visited

namespace Program

/-- Runs the machine on the text `cs` from the stack `stack`: answers the capture slots of the
first `accept` reached, with the visited set after the run. -/
def run (p : Program) (cs : Array Char) :
    Nat → List Frame → Array (Option Nat) → Visited → Option (Array (Option Nat)) × Visited
  | 0, _, _, vis => (none, vis)
  | _ + 1, [], _, vis => (none, vis)
  | fuel + 1, .restore slot value :: rest, slots, vis =>
    run p cs fuel rest (slots.setIfInBounds slot value) vis
  | fuel + 1, .explore pc pos :: rest, slots, vis =>
    if vis.contains pc pos then run p cs fuel rest slots vis
    else
      let vis := vis.insert pc pos
      match p.insts[pc]? with
      | some (.char ranges next) =>
        match cs[pos]? with
        | some c =>
          if CharClass.searchRanges ranges c.toNat then
            run p cs fuel (.explore next (pos + 1) :: rest) slots vis
          else run p cs fuel rest slots vis
        | none => run p cs fuel rest slots vis
      | some (.split a b) => run p cs fuel (.explore a pos :: .explore b pos :: rest) slots vis
      | some (.save slot next) =>
        run p cs fuel (.explore next pos :: .restore slot (slots.getD slot none) :: rest)
          (slots.setIfInBounds slot (some pos)) vis
      | some (.assert l next) =>
        if l.holds cs pos then run p cs fuel (.explore next pos :: rest) slots vis
        else run p cs fuel rest slots vis
      | some (.jump next) => run p cs fuel (.explore next pos :: rest) slots vis
      | some .accept => (some slots, vis)
      | none => run p cs fuel rest slots vis

def tryStarts (p : Program) (cs : Array Char) (fuel : Nat) :
    Nat → Nat → Visited → Option (Array (Option Nat))
  | 0, _, _ => none
  | n + 1, start, vis =>
    match p.run cs fuel [.explore p.start start] (Array.replicate p.slots none) vis with
    | (some slots, _) => some slots
    | (none, vis) => tryStarts p cs fuel n (start + 1) vis

/-- The capture slots of the preferred leftmost match at or after position `start` of `cs`
(slot `2g` and `2g+1` bound group `g`), or `none` when there is no match. -/
def search (p : Program) (cs : Array Char) (start : Nat) : Option (Array (Option Nat)) :=
  if cs.size < start then none
  else
    let width := cs.size + 1 - start
    let fuel := 3 * p.insts.size * width + 3
    tryStarts p cs fuel width start (Visited.empty p.insts.size start)

end Program

end Highlight.Regex
