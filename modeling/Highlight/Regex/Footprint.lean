import Highlight.Regex.Tree
import Highlight.Regex.ByteSequence

/-!
# The memory of a pattern's automata

A pattern is refused when its automata would take more than `automatonLimit` bytes.  Two are built
by Thompson's construction from the pattern's normal form (`Highlight.Regex.Tree`): one that reads
forward and records capture groups, and one that reads backward and records none.  A state takes
32 bytes, a transition in a state's list of transitions 8 more, and a branch of a choosing state 4
more.  `Footprint` counts both totals as states are added; building stops as soon as the bytes
pass the limit, and since they only grow, that happens exactly when the finished automaton would
be too large.

The parts of the construction:

* an unanchored search starts with a lazy loop over any byte, left out when every match is
  anchored at the side the automaton starts from;
* a literal is a state a byte; an ASCII class, and every byte class, is a state with a list of
  ranges and an empty state after it;
* a class beyond ASCII is read through its UTF-8 byte sequences (`byteSequences`).  Forward, the
  sequences go into a trie whose finished nodes are shared through a table of 10,000 slots keyed
  by a hash of their transitions (`Minimizer`); backward, each sequence is a chain of byte states
  from the class's end, whose tails are shared through a table of 1,000 slots (`backwardClass`).
  A slot holds the latest state stored in it, so two keys with one hash may cost a state twice;
* an alternation of literals only is a trie of the literals (`LiteralTrie`); any other alternation
  is a choosing state before its branches and an empty state after them;
* repetitions are copies of their body joined by choosing states (`compile`).

Which states exist, and in which order, matters beyond their number: the sharing tables hash the
numbers of states, so a class costs what it costs at the place where it is built.
-/

namespace Highlight.Regex

/-- The most bytes that the automata of one pattern may take. -/
def automatonLimit : Nat := 10 * Nat.pow 2 20

/-- The memory of an automaton under construction: its number of states (which numbers the next
one) and the bytes held by the lists of its states. -/
structure Footprint where
  states : Nat := 0
  listBytes : Nat := 0
  deriving Inhabited

def Footprint.bytes (f : Footprint) : Nat := 32 * f.states + f.listBytes

abbrev BuildM := StateT Footprint Option

namespace Footprint

def check : BuildM Unit := do
  if (← get).bytes > automatonLimit then failure

def addState (bytes : Nat) : BuildM Nat := do
  let f ← get
  set { f with states := f.states + 1, listBytes := f.listBytes + bytes }
  check
  pure f.states

def addPlain : BuildM Unit := discard (addState 0)

def addBranch : BuildM Unit := do
  modify fun f => { f with listBytes := f.listBytes + 4 }
  check

end Footprint

open Footprint

/-- How a piece of an automaton is left: by a choosing state, which each successor joined to it
grows by a branch, or by a state with a single successor. -/
inductive Exit where
  | choice
  | single
  deriving Inhabited, BEq

def Exit.join : Exit → BuildM Unit
  | .choice => addBranch
  | .single => pure ()

def fnvStep (h : UInt64) (x : Nat) : UInt64 := (h ^^^ x.toUInt64) * 1099511628211

def fnvHash (xs : List Nat) : Nat := (xs.foldl fnvStep 14695981039346656037).toNat

abbrev Edge := Nat × Nat × Nat

structure OpenNode where
  edges : Array Edge := #[]
  last : Option (Nat × Nat) := none
  deriving Inhabited

def OpenNode.close (n : OpenNode) (next : Nat) : Array Edge :=
  match n.last with
  | some (a, b) => n.edges.push (a, b, next)
  | none => n.edges

def forwardSlots : Nat := 10000

def backwardSlots : Nat := 1000

/-- The forward reading of a class: the byte sequences, in increasing order, go into a trie of
open nodes (`stack`, the root first); a node is made a state once no later sequence can reach
it, and equal states are shared through `table`.  `target` is the class's end state. -/
structure Minimizer where
  target : Nat
  stack : Array OpenNode
  table : Array (Option (Array Edge × Nat))
  deriving Inhabited

namespace Minimizer

/-- The state for a node's transitions: one in the table under their hash when it has the same
transitions, else a new state, which takes that slot. -/
def intern (m : Minimizer) (edges : Array Edge) : BuildM (Minimizer × Nat) := do
  let slot := fnvHash (edges.toList.flatMap fun (a, b, n) => [a, b, n]) % forwardSlots
  match m.table[slot]? with
  | some (some (key, id)) =>
    if key == edges then return (m, id)
  | _ => pure ()
  let id ← addState (8 * edges.size)
  pure ({ m with table := m.table.setIfInBounds slot (some (edges, id)) }, id)

def closeTop (m : Minimizer) (next : Nat) : Minimizer :=
  match m.stack.back? with
  | some n => { m with stack := m.stack.pop.push { edges := n.close next } }
  | none => m

/-- Makes states of the nodes above position `keep`, from the top down, each the target of the
open transition of the node below it; the node at `keep` stays open with its last transition
closed.  `fuel` bounds the number of nodes. -/
def closeAbove (keep : Nat) : Nat → Minimizer → Nat → BuildM Minimizer
  | 0, m, next => pure (m.closeTop next)
  | fuel + 1, m, next =>
    if keep + 1 < m.stack.size then do
      match m.stack.back? with
      | some n =>
        let (m, id) ← { m with stack := m.stack.pop }.intern (n.close next)
        closeAbove keep fuel m id
      | none => pure m
    else pure (m.closeTop next)

def sharedDepth : List OpenNode → ByteSeq → Nat
  | n :: ns, r :: rs => if n.last == some r then sharedDepth ns rs + 1 else 0
  | _, _ => 0

def openChain (m : Minimizer) : ByteSeq → Minimizer
  | [] => m
  | r :: rs =>
    let stack := match m.stack.back? with
      | some n => m.stack.pop.push { n with last := some r }
      | none => m.stack
    { m with stack := rs.foldl (fun s r => s.push { last := some r }) stack }

def add (m : Minimizer) (s : ByteSeq) : BuildM Minimizer := do
  let depth := sharedDepth m.stack.toList s
  let m ← closeAbove depth m.stack.size m m.target
  pure (m.openChain (s.drop depth))

def finish (m : Minimizer) : BuildM Unit := do
  let m ← closeAbove 0 m.stack.size m m.target
  match m.stack.back? with
  | some root => discard (m.intern root.edges)
  | none => pure ()

end Minimizer

def classSequences (rs : List (Nat × Nat)) : List ByteSeq :=
  rs.flatMap fun (lo, hi) => byteSequences lo hi

/-- A class beyond ASCII in the forward automaton: its end state, then the states of the trie of
its byte sequences. -/
def forwardClass (rs : List (Nat × Nat)) : BuildM Unit := do
  let target ← addState 0
  let m : Minimizer :=
    { target, stack := #[{}], table := Array.replicate forwardSlots none }
  let m ← (classSequences rs).foldlM (fun m s => m.add s) m
  m.finish

/-- A class beyond ASCII in the backward automaton: a choosing state and an end state, then for
each byte sequence a chain of byte states ending at the end state, read from its last byte; a
chain's tail already built from the same state with the same range is shared. -/
def backwardClass (rs : List (Nat × Nat)) : BuildM Unit := do
  addPlain
  let finish ← addState 0
  let table : Array (Option (Edge × Nat)) := Array.replicate backwardSlots none
  let step (acc : Array (Option (Edge × Nat)) × Nat) (r : Nat × Nat) :
      BuildM (Array (Option (Edge × Nat)) × Nat) := do
    let (table, next) := acc
    let key : Edge := (next, r.1, r.2)
    let slot := fnvHash [next, r.1, r.2] % backwardSlots
    match table[slot]? with
    | some (some (k, id)) =>
      if k == key then return (table, id)
    | _ => pure ()
    let id ← addState 0
    pure (table.setIfInBounds slot (some (key, id)), id)
  discard <| (classSequences rs).foldlM (fun table s => do
    let (table, _) ← s.foldlM step (table, finish)
    addBranch
    pure table) table

structure TrieNode where
  edges : List (Nat × Nat) := []
  chunks : Array (Nat × Nat) := #[]
  deriving Inhabited

def TrieNode.activeStart (n : TrieNode) : Nat := (n.chunks.back?.map (·.2)).getD 0

def TrieNode.allChunks (n : TrieNode) : List (List (Nat × Nat)) :=
  n.chunks.toList.map (fun (a, b) => (n.edges.drop a).take (b - a)) ++
    [n.edges.drop n.activeStart]

/-- A trie of literals that keeps the order of preference: a literal that ends at a node splits
its transitions into the chunk before that ending and those after. -/
structure LiteralTrie where
  nodes : Array TrieNode := #[{}]
  deriving Inhabited

namespace LiteralTrie

def step (t : LiteralTrie) (s b : Nat) : LiteralTrie × Nat :=
  let n := t.nodes.getD s {}
  let start := n.activeStart
  let active := n.edges.drop start
  match active.find? (·.1 == b) with
  | some (_, next) => (t, next)
  | none =>
    let next := t.nodes.size
    let i := start + (active.filter (·.1 < b)).length
    let n := { n with edges := n.edges.take i ++ [(b, next)] ++ n.edges.drop i }
    ({ nodes := (t.nodes.setIfInBounds s n).push {} }, next)

/-- Records that a literal ends at node `s`; a second ending at a node without transitions adds
nothing. -/
def endAt (t : LiteralTrie) (s : Nat) : LiteralTrie :=
  let n := t.nodes.getD s {}
  if n.edges.isEmpty && !n.chunks.isEmpty then t
  else { nodes := t.nodes.setIfInBounds s { n with chunks := n.chunks.push (n.activeStart, n.edges.length) } }

def insert (t : LiteralTrie) (bytes : List Nat) : LiteralTrie :=
  let (t, last) := bytes.foldl (fun (t, s) b => t.step s b) (t, 0)
  t.endAt last

/-- The states of node `s` and of the nodes below it: for each chunk with transitions one state
(with a list when it has two or more), and one choosing state over those and, between chunks,
the trie's end.  `fuel` bounds the depth. -/
def nodeStates (t : LiteralTrie) : Nat → Nat → BuildM Unit
  | 0, _ => pure ()
  | fuel + 1, s => do
    let chunks := (t.nodes.getD s {}).allChunks
    let mut branches := chunks.length - 1
    for chunk in chunks do
      for (_, next) in chunk do
        unless (t.nodes.getD next {}).edges.isEmpty do
          nodeStates t fuel next
      if chunk.length == 1 then
        addPlain
        branches := branches + 1
      else if chunk.length ≥ 2 then
        discard (addState (8 * chunk.length))
        branches := branches + 1
    discard (addState (4 * branches))

end LiteralTrie

def literalBytes (backward : Bool) (cs : List Nat) : List Nat :=
  let bytes := cs.flatMap utf8Encode
  if backward then bytes.reverse else bytes

def allLiterals (bs : List Tree) : Option (List (List Nat)) :=
  let lits := bs.filterMap fun
    | .literal cs => some cs
    | _ => none
  if lits.length ≥ 2 && lits.length == bs.length then some lits else none

def literalAlternation (backward : Bool) (lits : List (List Nat)) : BuildM Exit := do
  let t : LiteralTrie := lits.foldl (fun t cs => t.insert (literalBytes backward cs)) {}
  addPlain
  t.nodeStates t.nodes.size 0
  pure .single

def classStates (backward : Bool) (rs : List (Nat × Nat)) : BuildM Exit := do
  if rs.all (·.2 < 0x80) then
    addPlain
    discard (addState (8 * rs.length))
  else if backward then backwardClass rs
  else forwardClass rs
  pure .single

mutual

/-- The states of a tree in the forward (`backward` false, with capture states) or backward
automaton, answering how the piece is left. -/
def compile (backward : Bool) : Tree → BuildM Exit
  | .empty | .look _ => do
    addPlain
    pure .single
  | .literal cs => do
    for _ in literalBytes backward cs do addPlain
    pure .single
  | .cls rs _ => classStates backward rs
  | .capture _ sub =>
    if backward then compile backward sub
    else do
      addPlain
      let e ← compile backward sub
      addPlain
      e.join
      pure .single
  | .cat xs => compileParts backward xs
  | .alt xs =>
    match allLiterals xs with
    | some lits => literalAlternation backward lits
    | none => compileBranches backward xs
  | .rep lo hi _ sub =>
    match lo, hi with
    | 0, some 1 => do
      addPlain
      let e ← compile backward sub
      addPlain
      addBranch
      addBranch
      e.join
      pure .single
    | 0, none =>
      if (match sub.minLen with | some k => decide (0 < k) | none => false) then do
        addPlain
        let e ← compile backward sub
        addBranch
        e.join
        pure .choice
      else do
        let e ← compile backward sub
        addPlain
        e.join
        addBranch
        addPlain
        addPlain
        addBranch
        addBranch
        addBranch
        pure .single
    | 1, none => do
      let e ← compile backward sub
      addPlain
      e.join
      addBranch
      pure .choice
    | n + 2, none => do
      let ep ← copies backward sub (n + 1)
      let el ← compile backward sub
      addPlain
      ep.join
      el.join
      addBranch
      pure .choice
    | lo, some m =>
      if lo == m then copies backward sub lo
      else do
        let ep ← copies backward sub lo
        addPlain
        optionalCopies backward sub (m - lo) ep
        pure .single
termination_by t => (sizeOf t, 0)

def compileParts (backward : Bool) : List Tree → BuildM Exit
  | [] => do
    addPlain
    pure .single
  | [x] => compile backward x
  | x :: rest =>
    if backward then do
      let e ← compileParts backward rest
      e.join
      compile backward x
    else do
      let e ← compile backward x
      e.join
      compileParts backward rest
termination_by xs => (sizeOf xs, 0)

/-- The branches of an alternation: the first two, then the choosing state and the end state,
then the others. -/
def compileBranches (backward : Bool) : List Tree → BuildM Exit
  | [] => do
    addPlain
    pure .single
  | [x] => compile backward x
  | x :: y :: rest => do
    let ex ← compile backward x
    let ey ← compile backward y
    addPlain
    addPlain
    addBranch
    ex.join
    addBranch
    ey.join
    moreBranches backward rest
    pure .single
termination_by xs => (sizeOf xs, 0)

def moreBranches (backward : Bool) : List Tree → BuildM Unit
  | [] => pure ()
  | x :: rest => do
    let e ← compile backward x
    addBranch
    e.join
    moreBranches backward rest
termination_by xs => (sizeOf xs, 0)

def copies (backward : Bool) (sub : Tree) : Nat → BuildM Exit
  | 0 => do
    addPlain
    pure .single
  | 1 => compile backward sub
  | n + 2 => do
    let e ← compile backward sub
    e.join
    copies backward sub (n + 1)
termination_by n => (sizeOf sub, n + 1)

def optionalCopies (backward : Bool) (sub : Tree) : Nat → Exit → BuildM Unit
  | 0, prev => prev.join
  | n + 1, prev => do
    addPlain
    let e ← compile backward sub
    prev.join
    addBranch
    addBranch
    optionalCopies backward sub n e
termination_by n => (sizeOf sub, n + 1)

end

/-- The whole automaton for a pattern: the unanchored start, the pattern (as group `0` when
forward), and the match state. -/
def automaton (backward : Bool) (t : Tree) : BuildM Unit := do
  let anchored := if backward then t.endAnchored else t.startAnchored
  if anchored then addPlain
  else
    addPlain
    addPlain
    discard (addState 8)
    addBranch
  let e ← if backward then compile true t else compile false (.capture 0 t)
  addPlain
  e.join
  unless anchored do addBranch

mutual

/-- An upper bound on the bytes that a tree adds to either automaton.  A class beyond ASCII has
at most `21` byte sequences and `65` byte ranges in them for each of its ranges, and costs at most
`40` bytes a byte range and `64` more in either direction; a trie of literals costs at most `116`
bytes a byte of its literals and `32` more; a repetition costs at most its number of copies plus
one, each with `48` bytes of choosing states around it, and `128` more. -/
def Tree.bytesBound : Tree → Nat
  | .empty | .look _ => 32
  | .literal cs => 32 * utf8Total cs
  | .cls rs _ => if rs.all (·.2 < 0x80) then 64 + 8 * rs.length else 2600 * rs.length + 64
  | .capture _ s => s.bytesBound + 68
  | .cat xs => Tree.bytesBoundParts xs
  | .alt xs =>
    match allLiterals xs with
    | some lits => 32 + 116 * lits.foldr (fun cs n => utf8Total cs + n) 0
    | none => Tree.bytesBoundBranches xs + 64
  | .rep lo hi _ s => (hi.getD lo + 1) * (s.bytesBound + 48) + 128

def Tree.bytesBoundParts : List Tree → Nat
  | [] => 32
  | x :: xs => x.bytesBound + 4 + Tree.bytesBoundParts xs

def Tree.bytesBoundBranches : List Tree → Nat
  | [] => 32
  | x :: xs => x.bytesBound + 8 + Tree.bytesBoundBranches xs

end

def Tree.automatonBound (t : Tree) : Nat := t.bytesBound + 216

/-- Whether both automata of a pattern stay within `automatonLimit`: at once when the bound does,
else by building them. -/
def Tree.fitsAutomata (t : Tree) : Bool :=
  decide (t.automatonBound ≤ automatonLimit) ||
    (((automaton false t).run {}).isSome && ((automaton true t).run {}).isSome)

theorem Tree.fitsAutomata_of_bound (t : Tree) (h : t.automatonBound ≤ automatonLimit) :
    t.fitsAutomata = true := by
  simp [Tree.fitsAutomata, h]

end Highlight.Regex
