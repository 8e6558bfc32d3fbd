/-!
# Sets and maps of code points, read from compact tables

A `CodeSet` is an inversion list: the sorted code points at which membership flips, starting
outside the set.  A `CodeMap` gives each code point the value of the last run that starts at or
before it.  Both are read once from a text of blank-separated hexadecimal numbers, so that the
Unicode data of the library stays in a few string literals.

`CodeSet.rank` is a binary search; `mem_iff_rank` states membership through it, and
`CodeSet.ofRanges` builds a set from inclusive ranges for the small hand-written classes.
-/

namespace Highlight.Unicode

def hexValue? (c : Char) : Option Nat :=
  if '0' ≤ c ∧ c ≤ '9' then some (c.toNat - '0'.toNat)
  else if 'a' ≤ c ∧ c ≤ 'f' then some (c.toNat - 'a'.toNat + 10)
  else if 'A' ≤ c ∧ c ≤ 'F' then some (c.toNat - 'A'.toNat + 10)
  else none

def tableWords (text : String) : Array String :=
  let step (acc : Array String × String) (c : Char) : Array String × String :=
    if c = ' ' ∨ c = '\n' then
      (if acc.2.isEmpty then acc.1 else acc.1.push acc.2, "")
    else (acc.1, acc.2.push c)
  let (words, last) := text.foldl step (#[], "")
  if last.isEmpty then words else words.push last

/-- A word read as a hexadecimal number; a character that is no digit counts as `0`. -/
def readHex (word : String) : Nat :=
  word.foldl (fun n c => n * 16 + (hexValue? c).getD 0) 0

/-- A set of code points as an inversion list: `bounds` is sorted, and a code point is in the
set when an odd number of bounds lie at or below it. -/
structure CodeSet where
  bounds : Array Nat

namespace CodeSet

def rank (s : CodeSet) (c : Nat) : Nat :=
  go 0 s.bounds.size
where
  go (lo hi : Nat) : Nat :=
    if lo < hi then
      let mid := (lo + hi) / 2
      if s.bounds.getD mid 0 ≤ c then go (mid + 1) hi else go lo mid
    else lo
  termination_by hi - lo

def contains (s : CodeSet) (c : Nat) : Bool :=
  s.rank c % 2 == 1

def ofTable (text : String) : CodeSet :=
  ⟨(tableWords text).map readHex⟩

def ofRanges (ranges : List (Nat × Nat)) : CodeSet :=
  ⟨(ranges.flatMap fun r => [r.1, r.2 + 1]).toArray⟩

def toRanges (s : CodeSet) : List (Nat × Nat) :=
  go s.bounds.toList
where
  go : List Nat → List (Nat × Nat)
    | lo :: hi :: rest => (lo, hi - 1) :: go rest
    | [lo] => [(lo, 0x10FFFF)]
    | [] => []

theorem mem_iff_rank (s : CodeSet) (c : Nat) : s.contains c = true ↔ s.rank c % 2 = 1 := by
  simp [contains]

end CodeSet

/-- A map from code points to values, given by the code points at which runs start and the value
of each run; code points before the first run take `default`. -/
structure CodeMap (α : Type) where
  starts : Array Nat
  values : Array α
  default : α

namespace CodeMap

def get {α : Type} (m : CodeMap α) (c : Nat) : α :=
  match (CodeSet.rank ⟨m.starts⟩ c) with
  | 0 => m.default
  | k + 1 => m.values.getD k m.default

def ofTable {α : Type} (value : String → α) (default : α) (text : String) : CodeMap α :=
  let words := tableWords text
  let pairs := (List.range (words.size / 2)).map fun i =>
    (readHex (words.getD (2 * i) ""), value (words.getD (2 * i + 1) ""))
  ⟨(pairs.map Prod.fst).toArray, (pairs.map Prod.snd).toArray, default⟩

def ranges {α : Type} (m : CodeMap α) (p : α → Bool) : List (Nat × Nat) :=
  (List.range m.starts.size).filterMap fun i =>
    if p (m.values.getD i m.default) then
      some (m.starts.getD i 0, m.starts.getD (i + 1) 0x110000 - 1)
    else none

end CodeMap

end Highlight.Unicode
