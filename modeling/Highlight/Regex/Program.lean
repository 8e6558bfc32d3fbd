import Highlight.Regex.Syntax

/-!
# Compiled programs

A regular expression compiles to a program for a backtracking machine: an array of instructions,
each naming the instructions that follow it.  `char` consumes one character of a class, `split`
tries its first successor and then its second, `save` records the position in a capture slot,
`assert` checks a zero-width assertion, `jump` goes on without consuming, and `accept` ends a
match.

The shapes of repetitions fix which match the search prefers among those of the same start:

* `x?` and the optional copies of `x{n,m}` are a `split` between `x` and the exit;
* `x*` is a `split` that `x` loops back to when `x` cannot match the empty text; otherwise it is
  `(x+)?`, so that after an empty round the exit is preferred to another round;
* `x+` and `x{n,}` end with a `split` that loops back to the last copy of `x`.

The whole expression is wrapped in group `0`, whose two slots give the bounds of a match.
-/

namespace Highlight.Regex

inductive Inst where
  /-- Consume one character of the class (inclusive ranges, sorted), then go to `next`. -/
  | char (ranges : Array (Nat × Nat)) (next : Nat)
  /-- Go to `first`; if that fails, go to `second`. -/
  | split (first second : Nat)
  /-- Record the position in capture slot `slot`, then go to `next`. -/
  | save (slot : Nat) (next : Nat)
  /-- Go on to `next` if the assertion holds here. -/
  | assert (l : Look) (next : Nat)
  /-- Go to `next`. -/
  | jump (next : Nat)
  /-- A match ends here. -/
  | accept
  deriving Repr, Inhabited

structure Program where
  insts : Array Inst
  start : Nat
  slots : Nat
  deriving Repr, Inhabited

namespace Program

/-- Appends an instruction, answering its index.  The index is taken first, so that the array is
not shared when it grows and is extended in place. -/
def emit (p : Array Inst) (i : Inst) : Array Inst × Nat :=
  let n := p.size
  (p.push i, n)

/-- A `split` preferring `a` when greedy, else `b`. -/
def choice (greedy : Bool) (a b : Nat) : Inst :=
  if greedy then .split a b else .split b a

def copies (f : Nat → Array Inst → Array Inst × Nat) : Nat → Nat → Array Inst → Array Inst × Nat
  | 0, k, p => (p, k)
  | n + 1, k, p =>
    let (p, e) := f k p
    copies f n e p

/-- Compiles a fragment that goes on to `k`; answers the program so far and the fragment's
entry. -/
def compile : Expr → Nat → Array Inst → Array Inst × Nat
  | .empty, k, p => (p, k)
  | .set c, k, p => emit p (.char c.ranges.toArray k)
  | .look l, k, p => emit p (.assert l k)
  | .cat a b, k, p =>
    let (p, e) := compile b k p
    compile a e p
  | .alt a b, k, p =>
    let (p, ea) := compile a k p
    let (p, eb) := compile b k p
    emit p (.split ea eb)
  | .capture i r, k, p =>
    let (p, close) := emit p (.save (2 * i + 1) k)
    let (p, e) := compile r close p
    emit p (.save (2 * i) e)
  | .rep lo hi greedy r, k, p =>
    let f := fun k p => compile r k p
    match hi with
    | some m =>
      -- `lo` copies, then `m - lo` optional ones that may each leave for `k`
      let (p, e) := optionalsTo greedy f (m - lo) k p
      copies f lo e p
    | none =>
      match lo with
      | 0 =>
        if (match r.minLen with | some n => decide (n > 0) | none => false) then
          -- loop: a split whose first branch comes back to it
          let (p, l) := emit p (.jump 0)
          let (p, e) := compile r l p
          (p.setIfInBounds l (choice greedy e k), l)
        else
          -- `(x+)?`: the loop's split is apart from the entry's
          let (p, l) := emit p (.jump 0)
          let (p, e) := compile r l p
          let p := p.setIfInBounds l (choice greedy e k)
          emit p (choice greedy e k)
      | n + 1 =>
        let (p, l) := emit p (.jump 0)
        let (p, e) := compile r l p
        let p := p.setIfInBounds l (choice greedy e k)
        copies f n e p
where
  /-- `n` optional copies before `k`, each of which may go straight to `k`. -/
  optionalsTo (greedy : Bool) (f : Nat → Array Inst → Array Inst × Nat) :
      Nat → Nat → Array Inst → Array Inst × Nat
    | 0, k, p => (p, k)
    | n + 1, k, p =>
      -- the last optional copy goes on to `k`; each earlier one to the next split
      let (p, inner) := optionalsTo greedy f n k p
      let (p, e) := f inner p
      let (p, s) := emit p (.jump 0)
      (p.setIfInBounds s (choice greedy e k), s)

end Program

/-- Compiles an expression: group `0` around it, then `accept`. -/
def Expr.compile (r : Expr) : Program :=
  let (p, acc) := Program.emit #[] .accept
  let (p, e) := Program.compile (.capture 0 r) acc p
  ⟨p, e, 2 * r.groupCount⟩

end Highlight.Regex
