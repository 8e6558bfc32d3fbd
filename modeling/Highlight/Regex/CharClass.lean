import Highlight.Unicode.CaseFold

/-!
# Character classes

A character class is a set of Unicode scalar values, kept as inclusive ranges of code points that
are sorted, apart and not adjacent (`CharClass.normalize` restores that form).  The set operations
of bracketed classes (union, intersection, difference, symmetric difference, complement) and the
closure under simple case folding work on that form.

The complement is taken within the scalar values, so it never holds a surrogate code point.  The
shortest and longest UTF-8 encodings of a class's members are those of its least and greatest
member (`CharClass.minLen`, `CharClass.maxLen`), since the length of an encoding grows with the
code point.
-/

namespace Highlight.Regex

open Highlight.Unicode

def utf8Len (c : Nat) : Nat :=
  if c < 0x80 then 1 else if c < 0x800 then 2 else if c < 0x10000 then 3 else 4

def utf8Total (cs : List Nat) : Nat := cs.foldr (fun c n => utf8Len c + n) 0

/-- A set of characters: inclusive ranges of code points, sorted, apart and not adjacent. -/
structure CharClass where
  ranges : List (Nat × Nat)
  deriving Repr, Inhabited, BEq

namespace CharClass

def mergeSorted : List (Nat × Nat) → List (Nat × Nat)
  | [] => []
  | [r] => [r]
  | (a, b) :: (c, d) :: rest =>
    if c ≤ b + 1 then mergeSorted ((a, max b d) :: rest)
    else (a, b) :: mergeSorted ((c, d) :: rest)
termination_by rs => rs.length

/-- The class of the code points of arbitrary ranges (a range with its ends swapped is empty). -/
def normalize (rs : List (Nat × Nat)) : CharClass :=
  ⟨mergeSorted ((rs.filter fun r => r.1 ≤ r.2).mergeSort fun x y => x.1 ≤ y.1)⟩

def empty : CharClass := ⟨[]⟩

def single (c : Nat) : CharClass := ⟨[(c, c)]⟩

def range (lo hi : Nat) : CharClass := normalize [(lo, hi)]

def ofRanges (rs : List (Nat × Nat)) : CharClass := normalize rs

def any : CharClass := ⟨[(0, 0xD7FF), (0xE000, 0x10FFFF)]⟩

def union (a b : CharClass) : CharClass :=
  let valid := fun r : Nat × Nat => decide (r.1 ≤ r.2)
  ⟨mergeSorted (List.merge (a.ranges.filter valid) (b.ranges.filter valid) fun x y => x.1 ≤ y.1)⟩

/-- The gaps between sorted ranges, from `start` up to `0x10FFFF`. -/
def gaps : Nat → List (Nat × Nat) → List (Nat × Nat)
  | start, [] => if start ≤ 0x10FFFF then [(start, 0x10FFFF)] else []
  | start, (a, b) :: rest =>
    let here := if start < a then [(start, a - 1)] else []
    here ++ gaps (b + 1) rest

def negate (a : CharClass) : CharClass :=
  let outside := normalize (gaps 0 a.ranges)
  -- surrogates are no characters: cut them out of the complement
  normalize (outside.ranges.flatMap fun (lo, hi) =>
    [(lo, min hi 0xD7FF), (max lo 0xE000, hi)])

def intersect (a b : CharClass) : CharClass := (a.negate.union b.negate).negate

def difference (a b : CharClass) : CharClass := a.intersect b.negate

def symmetricDifference (a b : CharClass) : CharClass :=
  (a.union b).difference (a.intersect b)

/-- Whether a code point lies in one of the ranges, by binary search over them. -/
def searchRanges (rs : Array (Nat × Nat)) (c : Nat) : Bool :=
  go 0 rs.size
where
  go (lo hi : Nat) : Bool :=
    if lo < hi then
      let mid := (lo + hi) / 2
      let r := rs.getD mid (0, 0)
      if c < r.1 then go lo mid
      else if r.2 < c then go (mid + 1) hi
      else true
    else false
  termination_by hi - lo

def contains (a : CharClass) (c : Nat) : Bool := searchRanges a.ranges.toArray c

def isEmpty (a : CharClass) : Bool := a.ranges.isEmpty

/-- The class with every case-equivalent of its members added (simple case folding). -/
def caseFold (a : CharClass) : CharClass :=
  let rs := a.ranges.toArray
  let added := foldEntries.foldl (fun acc (c, orbit) =>
    if searchRanges rs c then acc ++ orbit.map fun d => (d, d) else acc) []
  if added.isEmpty then a else normalize (a.ranges ++ added)

def asciiCaseFold (a : CharClass) : CharClass :=
  let rs := a.ranges.toArray
  let added := (List.range 26).flatMap fun i =>
    let up := 0x41 + i
    let low := 0x61 + i
    (if searchRanges rs up then [(low, low)] else []) ++
      (if searchRanges rs low then [(up, up)] else [])
  normalize (a.ranges ++ added)

def isAscii (a : CharClass) : Bool := a.ranges.all fun r => r.2 < 0x80

/-- The length of the shortest UTF-8 encoding of a member, `none` for the empty class. -/
def minLen (a : CharClass) : Option Nat :=
  a.ranges.head?.map fun r => utf8Len r.1

def maxLen (a : CharClass) : Option Nat :=
  a.ranges.getLast?.map fun r => utf8Len r.2

def singleton? (a : CharClass) : Option Nat :=
  match a.ranges with
  | [(lo, hi)] => if lo == hi then some lo else none
  | _ => none

end CharClass

end Highlight.Regex
