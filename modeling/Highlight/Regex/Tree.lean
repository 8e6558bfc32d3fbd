import Highlight.Regex.Syntax

/-!
# Expressions in normal form

The automata that a pattern is measured by (`Highlight.Regex.Footprint`) are built from the
pattern's expression in a normal form, which these rules give as the pattern is read, inner parts
first:

* a concatenation is flat (no concatenation directly inside one), has no empty parts, and a run
  of literals is one literal;
* an alternation is flat; when every branch is one character it is the class of those characters,
  when every branch is a class it is their union, and when every branch is a concatenation and they
  all begin with the same parts, those parts are taken out in front of an alternation of the rest;
* a class of one character is a literal, and a class of none is the empty byte class, which
  matches nothing;
* a repetition of a zero-width expression repeats at most once, `x{0}` is empty and `x{1}` is `x`.

A class keeps its scalar values as ranges in the form where the surrogates are no gap: two ranges
that meet across them are one.  Classes read without the `u` flag are byte classes, which equal no
character class.  `Tree.minLen`, `Tree.maxLen`, `Tree.startAnchored` and `Tree.endAnchored` are the
properties that decide the shape of the automata.
-/

namespace Highlight.Regex

/-- An expression in normal form. -/
inductive Tree where
  /-- Matches the empty text. -/
  | empty
  /-- Matches its characters (code points, at least one) in turn. -/
  | literal (chars : List Nat)
  /-- Matches one character of the ranges; `bytes` marks a class read without the `u` flag. -/
  | cls (ranges : List (Nat × Nat)) (bytes : Bool)
  /-- Matches the empty text where the assertion holds. -/
  | look (l : Look)
  /-- Matches `min` to `max` copies of `sub`, as many as possible when `greedy`. -/
  | rep (min : Nat) (max : Option Nat) (greedy : Bool) (sub : Tree)
  /-- Matches `sub` and records it as group `index`. -/
  | capture (index : Nat) (sub : Tree)
  /-- Matches its parts in turn. -/
  | cat (parts : List Tree)
  /-- Matches the first branch that leads to a match. -/
  | alt (branches : List Tree)
  deriving Inhabited

namespace Tree

mutual

def beq : Tree → Tree → Bool
  | .empty, .empty => true
  | .literal a, .literal b => a == b
  | .cls a x, .cls b y => a == b && x == y
  | .look a, .look b => a == b
  | .rep a b c s, .rep d e f t => a == d && b == e && c == f && beq s t
  | .capture i s, .capture j t => i == j && beq s t
  | .cat xs, .cat ys => beqList xs ys
  | .alt xs, .alt ys => beqList xs ys
  | _, _ => false

def beqList : List Tree → List Tree → Bool
  | [], [] => true
  | x :: xs, y :: ys => beq x y && beqList xs ys
  | _, _ => false

end

instance : BEq Tree := ⟨beq⟩

mutual

def size : Tree → Nat
  | .rep _ _ _ s | .capture _ s => s.size + 1
  | .cat xs | .alt xs => sizeList xs + 1
  | _ => 1

def sizeList : List Tree → Nat
  | [] => 0
  | x :: xs => x.size + sizeList xs

end

mutual

/-- The least number of bytes of a text that the tree matches, `none` when it matches nothing;
an alternation with such a branch answers `none`. -/
def minLen : Tree → Option Nat
  | .empty | .look _ => some 0
  | .literal cs => some (utf8Total cs)
  | .cls rs _ => rs.head?.map fun r => utf8Len r.1
  | .rep lo _ _ s => s.minLen.map (· * lo)
  | .capture _ s => s.minLen
  | .cat xs => minLenSum xs
  | .alt xs => minLenLeast xs

def minLenSum : List Tree → Option Nat
  | [] => some 0
  | x :: xs => do
    let a ← x.minLen
    let b ← minLenSum xs
    pure (a + b)

def minLenLeast : List Tree → Option Nat
  | [] => none
  | [x] => x.minLen
  | x :: xs => do
    let a ← x.minLen
    let b ← minLenLeast xs
    pure (min a b)

end

mutual

/-- The greatest number of bytes of a text that the tree matches, `none` when unbounded or when
it matches nothing. -/
def maxLen : Tree → Option Nat
  | .empty | .look _ => some 0
  | .literal cs => some (utf8Total cs)
  | .cls rs _ => rs.getLast?.map fun r => utf8Len r.2
  | .rep _ hi _ s => hi.bind fun m => s.maxLen.map (· * m)
  | .capture _ s => s.maxLen
  | .cat xs => maxLenSum xs
  | .alt xs => maxLenMost xs

def maxLenSum : List Tree → Option Nat
  | [] => some 0
  | x :: xs => do
    let a ← x.maxLen
    let b ← maxLenSum xs
    pure (a + b)

def maxLenMost : List Tree → Option Nat
  | [] => none
  | [x] => x.maxLen
  | x :: xs => do
    let a ← x.maxLen
    let b ← maxLenMost xs
    pure (max a b)

end

mutual

/-- Whether every match begins where the assertion `l` must hold: an assertion part at the
front, behind zero-width parts only, of every branch and of every required repetition. -/
def leads (l : Look) : Tree → Bool
  | .look a => a == l
  | .rep lo _ _ s => decide (0 < lo) && leads l s
  | .capture _ s => leads l s
  | .cat xs => leadsFront l xs
  | .alt xs => leadsAll l xs
  | _ => false

def leadsFront (l : Look) : List Tree → Bool
  | [] => false
  | x :: xs => leads l x || (x.maxLen == some 0 && leadsFront l xs)

def leadsAll (l : Look) : List Tree → Bool
  | [] => true
  | x :: xs => leads l x && leadsAll l xs

end

mutual

def trails (l : Look) : Tree → Bool
  | .look a => a == l
  | .rep lo _ _ s => decide (0 < lo) && trails l s
  | .capture _ s => trails l s
  | .cat xs => trailsEnd l xs
  | .alt xs => trailsAll l xs
  | _ => false

def trailsEnd (l : Look) : List Tree → Bool
  | [] => false
  | x :: xs => trailsEnd l xs || (trails l x && xs.all (·.maxLen == some 0))

def trailsAll (l : Look) : List Tree → Bool
  | [] => true
  | x :: xs => trails l x && trailsAll l xs

end

def startAnchored (t : Tree) : Bool := t.leads .textStart

def endAnchored (t : Tree) : Bool := t.trails .textEnd

def nextScalar (c : Nat) : Nat := if c == 0xD7FF then 0xE000 else c + 1

/-- Joins sorted, apart ranges of scalar values that meet, also across the surrogates. -/
def joinMeeting : List (Nat × Nat) → List (Nat × Nat)
  | (a, b) :: (c, d) :: rest =>
    if c == nextScalar b then joinMeeting ((a, d) :: rest)
    else (a, b) :: joinMeeting ((c, d) :: rest)
  | rs => rs
termination_by rs => rs.length

/-- The ranges of a class in the form where the surrogates are no gap. -/
def scalarRanges (c : CharClass) : List (Nat × Nat) :=
  joinMeeting (c.ranges.flatMap fun (lo, hi) =>
    (if lo ≤ 0xD7FF then [(lo, min hi 0xD7FF)] else []) ++
      (if 0xE000 ≤ hi then [(max lo 0xE000, hi)] else []))

def canonical (rs : List (Nat × Nat)) : List (Nat × Nat) := scalarRanges (CharClass.normalize rs)

/-- The tree of a class given by canonical ranges: a literal for one member, the empty byte class
for none. -/
def ofRanges (rs : List (Nat × Nat)) (bytes : Bool) : Tree :=
  match rs with
  | [] => .cls [] true
  | [(lo, hi)] => if lo == hi then .literal [lo] else .cls rs bytes
  | _ => .cls rs bytes

def ofClass (c : CharClass) (bytes : Bool) : Tree := ofRanges (scalarRanges c) bytes

def joinLiterals : List Tree → List Tree
  | .literal a :: .literal b :: rest => joinLiterals (.literal (a ++ b) :: rest)
  | x :: rest => x :: joinLiterals rest
  | [] => []
termination_by xs => xs.length

def flatParts : Tree → List Tree
  | .cat ys => ys
  | .empty => []
  | x => [x]

def concat (parts : List Tree) : Tree :=
  match joinLiterals (parts.flatMap flatParts) with
  | [] => .empty
  | [x] => x
  | xs => .cat xs

def singleChars : List Tree → Option (List Nat)
  | [] => some []
  | .literal [c] :: rest => (singleChars rest).map (c :: ·)
  | _ => none

def classRanges : List Tree → Option (List (Nat × Nat))
  | [] => some []
  | .cls rs _ :: rest => (classRanges rest).map (rs ++ ·)
  | _ => none

def concatParts : List Tree → Option (List (List Tree))
  | [] => some []
  | .cat xs :: rest => (concatParts rest).map (xs :: ·)
  | _ => none

def sharedFront : List Tree → List Tree → Nat
  | x :: xs, y :: ys => if x == y then sharedFront xs ys + 1 else 0
  | _, _ => 0

/-- The alternation of the branches in normal form, with a bound on how often a shared front
is taken out. -/
def alternationUpTo : Nat → List Tree → Tree
  | 0, branches => .alt branches
  | fuel + 1, branches =>
    let flat := branches.flatMap fun
      | .alt ys => ys
      | x => [x]
    match flat with
    | [] => .cls [] true
    | [x] => x
    | _ =>
      match singleChars flat with
      | some cs => ofRanges (canonical (cs.map fun c => (c, c))) false
      | none =>
        match classRanges flat with
        | some rs => ofRanges (canonical rs) false
        | none =>
          match concatParts flat with
          | some (first :: rest) =>
            let n := rest.foldl (fun n xs => min n (sharedFront first xs)) first.length
            if n == 0 then .alt flat
            else
              concat (first.take n ++
                [alternationUpTo fuel ((first :: rest).map fun xs => concat (xs.drop n))])
          | _ => .alt flat

/-- The alternation of the branches in normal form.  Each time a shared front is taken out the
longest concatenation gets shorter, so the branches' number of nodes bounds how often. -/
def alternation (branches : List Tree) : Tree :=
  alternationUpTo (sizeList branches + 1) branches

def repetition (lo : Nat) (hi : Option Nat) (greedy : Bool) (sub : Tree) : Tree :=
  let (lo, hi) := if sub.maxLen == some 0 then (min lo 1, some ((hi.map (min · 1)).getD 1))
    else (lo, hi)
  if lo == 0 && hi == some 0 then .empty
  else if lo == 1 && hi == some 1 then sub
  else .rep lo hi greedy sub

end Tree

end Highlight.Regex
