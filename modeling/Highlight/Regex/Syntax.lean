import Highlight.Regex.CharClass
import Highlight.Unicode.Word

/-!
# Regular expressions

The tree that a pattern compiles to: the empty expression, one character of a class, a zero-width
assertion, concatenation, alternation (the left branch preferred), counted repetition (greedy or
lazy) and capture groups.

`Expr.minLen` is the least number of UTF-8 bytes of a text that the expression matches, or `none`
when it can be shown to match nothing; a class without members matches nothing, and an
alternation with such a branch gives up and answers `none`.  A pattern is refused when this bound
is `some 0`.  The smart constructor `Expr.repetition` rewrites `x{0}` to the empty expression
(even when `x` matches nothing), `x{1}` to `x`, and caps a repetition of a zero-width expression
at one iteration.
-/

namespace Highlight.Regex

open Highlight.Unicode

inductive Look where
  /-- The start of the text. -/
  | textStart
  /-- The end of the text. -/
  | textEnd
  /-- The start of the text or the position after a line feed. -/
  | lineStart
  /-- The end of the text or the position before a line feed. -/
  | lineEnd
  /-- As `lineStart`, where a carriage return also ends a line, but not one before a line feed. -/
  | lineStartCrlf
  /-- As `lineEnd`, where a carriage return also ends a line, but not one after a line feed. -/
  | lineEndCrlf
  /-- A word character on exactly one side (`unicode` selects Unicode or ASCII word chars). -/
  | wordBoundary (unicode : Bool)
  /-- Word characters on both sides or on neither. -/
  | notWordBoundary (unicode : Bool)
  /-- No word character before and one after. -/
  | wordStart (unicode : Bool)
  /-- A word character before and none after. -/
  | wordEnd (unicode : Bool)
  /-- No word character before. -/
  | wordStartHalf (unicode : Bool)
  /-- No word character after. -/
  | wordEndHalf (unicode : Bool)
  deriving Repr, Inhabited, BEq

def isWordFor (unicode : Bool) (c : Char) : Bool :=
  if unicode then isWordChar c else c.toNat < 128 && (c.isAlphanum || c == '_')

namespace Look

/-- Whether the assertion holds at position `pos` of the text `cs` (a character index from `0` to
`cs.size`), given the characters before and after it. -/
def holds (l : Look) (cs : Array Char) (pos : Nat) : Bool :=
  let before := if pos = 0 then none else cs[pos - 1]?
  let after := cs[pos]?
  let wordAt (u : Bool) (c : Option Char) : Bool := (c.map (isWordFor u)).getD false
  match l with
  | textStart => pos == 0
  | textEnd => pos == cs.size
  | lineStart => before.isNone || before == some '\n'
  | lineEnd => after.isNone || after == some '\n'
  | lineStartCrlf =>
    before.isNone || before == some '\n' || (before == some '\r' && after != some '\n')
  | lineEndCrlf =>
    after.isNone || after == some '\r' || (after == some '\n' && before != some '\r')
  | wordBoundary u => wordAt u before != wordAt u after
  | notWordBoundary u => wordAt u before == wordAt u after
  | wordStart u => !wordAt u before && wordAt u after
  | wordEnd u => wordAt u before && !wordAt u after
  | wordStartHalf u => !wordAt u before
  | wordEndHalf u => !wordAt u after

end Look

inductive Expr where
  /-- Matches the empty text. -/
  | empty
  /-- Matches one character of the class. -/
  | set (cls : CharClass)
  /-- Matches the empty text where the assertion holds. -/
  | look (l : Look)
  /-- Matches the first expression, then the second. -/
  | cat (a b : Expr)
  /-- Matches the first expression or, failing that, the second. -/
  | alt (a b : Expr)
  /-- Matches `min` to `max` copies of the expression (no upper bound when `max` is `none`),
  as many as possible when `greedy`, else as few. -/
  | rep (min : Nat) (max : Option Nat) (greedy : Bool) (r : Expr)
  /-- Matches the expression and records where it matched as group `index`. -/
  | capture (index : Nat) (r : Expr)
  deriving Repr, Inhabited

namespace Expr

/-- The least number of bytes of a text that the expression matches, `none` when it is shown to
match nothing. -/
def minLen : Expr → Option Nat
  | empty => some 0
  | set c => c.minLen
  | look _ => some 0
  | cat a b => do
    let x ← a.minLen
    let y ← b.minLen
    pure (x + y)
  | alt a b => do
    let x ← a.minLen
    let y ← b.minLen
    pure (min x y)
  | rep lo _ _ r => r.minLen.map (· * lo)
  | capture _ r => r.minLen

def maxLen : Expr → Option Nat
  | empty => some 0
  | set c => c.maxLen
  | look _ => some 0
  | cat a b => do
    let x ← a.maxLen
    let y ← b.maxLen
    pure (x + y)
  | alt a b => do
    let x ← a.maxLen
    let y ← b.maxLen
    pure (max x y)
  | rep _ hi _ r => do
    let n ← hi
    let x ← r.maxLen
    pure (x * n)
  | capture _ r => r.maxLen

/-- A repetition in simplest form: a zero-width body repeats at most once, `x{0}` is the empty
expression and `x{1}` is `x`. -/
def repetition (lo : Nat) (hi : Option Nat) (greedy : Bool) (r : Expr) : Expr :=
  let (lo, hi) := if r.maxLen == some 0 then (min lo 1, some ((hi.map (min · 1)).getD 1))
    else (lo, hi)
  if lo == 0 && hi == some 0 then empty
  else if lo == 1 && hi == some 1 then r
  else rep lo hi greedy r

def concat : List Expr → Expr
  | [] => empty
  | [r] => r
  | r :: rs => cat r (concat rs)

/-- The alternation of a list of expressions, the earlier preferred; no branch matches nothing. -/
def alternation : List Expr → Expr
  | [] => set CharClass.empty
  | [r] => r
  | r :: rs => alt r (alternation rs)

def maxCapture : Expr → Nat
  | empty | set _ | look _ => 0
  | cat a b | alt a b => max a.maxCapture b.maxCapture
  | rep _ _ _ r => r.maxCapture
  | capture i r => max i r.maxCapture

def groupCount (r : Expr) : Nat := r.maxCapture + 1

end Expr

end Highlight.Regex
