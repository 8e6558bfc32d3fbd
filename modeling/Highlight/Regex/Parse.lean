import Highlight.Regex.Escape
import Highlight.Regex.Nullable

/-!
# Reading a pattern

`parsePattern` reads the text of a pattern into an `Expr` and the expression's normal form
(`Tree`), or says why it is none.  Besides the
escapes of `Highlight.Regex.Escape` the dialect has:

* `.` (any character but a line feed; any at all with flag `s`), `^` and `$` (the ends of the text,
  or of each line with flag `m`), and every other character standing for itself;
* bracketed classes `[…]`, `[^…]` of characters, ranges `a-z`, escapes, ASCII classes `[:alpha:]`,
  nested classes and the set operations `&&`, `--`, `~~`, the leftmost applied first; a `]` or `-`
  right after the opening bracket stands for itself;
* groups `(…)`, `(?:…)`, `(?P<name>…)`, `(?<name>…)`; capture groups are numbered from 1 in the
  order of their opening parentheses;
* flags `(?flags)` for the rest of the enclosing group and `(?flags:…)` for one group, where a `-`
  clears the flags after it;
* alternation `|` and the repetitions `?`, `*`, `+`, `{n}`, `{n,}`, `{n,m}` (blanks allowed around
  the numbers), each lazy with a `?` after it (greedy with flag `U`).

The nesting depth counts groups, repetitions, alternations and concatenations of two or more parts,
bracketed classes, unions of two or more class items and class operations; more than
`nestLimit` of them is refused.
-/

namespace Highlight.Regex

open Highlight.Unicode Parse

/-- A part of a concatenation being read: its expression, the expression's normal form, its
nesting depth, and whether it is a flag directive (which cannot be repeated).  The normal form is
kept sound for the expression (`Expr.Sound`) as the parts are joined. -/
structure Piece where
  re : Expr
  tree : Tree
  depth : Nat
  isFlags : Bool := false
  sound : re.Sound tree

instance : Inhabited Piece := ⟨{ re := .empty, tree := .empty, depth := 0, sound := .empty }⟩

/-- The piece of a class read under the flags: a class read without the `u` flag is a byte class
in normal form. -/
def classPiece (flags : Flags) (c : CharClass) : Piece :=
  { re := .set c, tree := Tree.ofClass c !flags.unicode, depth := 0,
    sound := .ofClass c !flags.unicode }

def lookPiece (l : Look) : Piece := { re := .look l, tree := .look l, depth := 0, sound := .look l }

/-- The one piece of a list of parts: a concatenation adds a level of depth when it has two parts
or more. -/
def joinPieces (ps : List Piece) : Piece :=
  let depth := ps.foldl (fun d p => max d p.depth) 0
  let kept := ps.filter fun p => !p.isFlags
  { re := Expr.concat (kept.map Piece.re), tree := Tree.concat (kept.map Piece.tree),
    depth := if ps.length ≥ 2 then depth + 1 else depth,
    sound := .concat Piece.re Piece.tree fun p _ => p.sound }

def joinBranches (bs : List Piece) : Piece :=
  let depth := bs.foldl (fun d b => max d b.depth) 0
  { re := Expr.alternation (bs.map Piece.re), tree := Tree.alternation (bs.map Piece.tree),
    depth := if bs.length ≥ 2 then depth + 1 else depth,
    sound := .alternation Piece.re Piece.tree fun b _ => b.sound }

def joinItems (items : List (CharClass × Nat)) : CharClass × Nat :=
  let depth := items.foldl (fun d i => max d i.2) 0
  (items.foldl (fun acc i => acc.union i.1) CharClass.empty,
    if items.length ≥ 2 then depth + 1 else depth)

inductive SetOp where
  | intersect | difference | symmetric
  deriving Repr, DecidableEq, Inhabited

def SetOp.apply (flags : Flags) (op : SetOp) (a b : CharClass) : CharClass :=
  let a := if flags.caseless then foldIn flags.unicode a else a
  let b := if flags.caseless then foldIn flags.unicode b else b
  match op with
  | .intersect => a.intersect b
  | .difference => a.difference b
  | .symmetric => a.symmetricDifference b

/-- The class of one character inside a bracketed class.  Without the `u` flag a character beyond
ASCII is refused, but a two-digit `\x` escape stands for its byte. -/
def classLiteral (flags : Flags) (c : Char) (byte : Option Nat) : Except SyntaxError Nat :=
  if flags.unicode then .ok c.toNat
  else match byte with
    | some b => .ok b
    | none => if c.toNat < 128 then .ok c.toNat else .error .unicodeUnavailable

namespace Parse

def liftExcept {α : Type} : Except SyntaxError α → ParseM α
  | .ok a => pure a
  | .error e => fail e

def asciiItem (flags : Flags) : ParseM (Option CharClass) := do
  let start ← get
  let back : ParseM (Option CharClass) := do
    set start
    pure none
  bump
  unless (← current) == some ':' do return ← back
  bump
  if ← atEnd then return ← back
  let negated ← if (← current) == some '^' then do bump; pure true else pure false
  if ← atEnd then return ← back
  let rec name : Nat → List Char → ParseM (Option (List Char))
    | 0, _ => pure none
    | fuel + 1, acc => do
      match ← current with
      | none => pure none
      | some ':' => pure (some acc.reverse)
      | some c =>
        bump
        name fuel (c :: acc)
  let some n ← name (← remaining) [] | back
  unless ← bumpIf ":]" do return ← back
  let some ranges := asciiClass? (String.ofList n) | back
  pure (some (← liftExcept (foldNegate flags negated (CharClass.ofRanges ranges))))

def leadingDashes (flags : Flags) : Nat → List (CharClass × Nat) → ParseM (List (CharClass × Nat))
  | 0, acc => pure acc
  | k + 1, acc => do
    if (← current) == some '-' then
      unless ← bumpSpace flags do fail .unclosedClass
      leadingDashes flags k ((CharClass.single 0x2D, 0) :: acc)
    else pure acc

def classAtom (flags : Flags) : ParseM Escape := do
  match ← current with
  | some '\\' => escape flags
  | some c =>
    bump
    pure (.literal c none)
  | none => fail .unclosedClass

def atomClass (flags : Flags) : Escape → ParseM CharClass
  | .literal c b => do pure (CharClass.single (← liftExcept (classLiteral flags c b)))
  | .cls c => pure c
  | .look _ => fail .badClassEscape

/-- Reads a class atom or a range `a-z`; a `-` before `]` or before another `-` ends no range. -/
def classRange (flags : Flags) : ParseM CharClass := do
  let a ← classAtom flags
  skipSpace flags
  if ← atEnd then fail .unclosedClass
  let next ← current
  let after ← peekSpace flags
  if next != some '-' || after == some ']' || after == some '-' then
    atomClass flags a
  else
    unless ← bumpSpace flags do fail .unclosedClass
    let b ← classAtom flags
    match a, b with
    | .literal x bx, .literal y byy =>
      if y < x then fail .badClassRange
      let lo ← liftExcept (classLiteral flags x bx)
      let hi ← liftExcept (classLiteral flags y byy)
      pure (CharClass.range lo hi)
    | _, _ => fail .badClassRange

mutual

/-- Reads a bracketed class where the reader stands on its `[`: the class (folded and negated
as the flags and a `^` say) and its depth.  `fuel` bounds the nesting of classes. -/
def bracketed (flags : Flags) : Nat → ParseM (CharClass × Nat)
  | 0 => fail .tooDeep
  | fuel + 1 => do
    unless ← bumpSpace flags do fail .unclosedClass
    let negated ← if (← current) == some '^' then do
        unless ← bumpSpace flags do fail .unclosedClass
        pure true
      else pure false
    let lead ← leadingDashes flags (← remaining) []
    let lead ← if lead.isEmpty && (← current) == some ']' then do
        unless ← bumpSpace flags do fail .unclosedClass
        pure [(CharClass.single 0x5D, 0)]
      else pure lead
    let (body, depth) ← setExpr flags fuel (← remaining) none lead
    let cls ← liftExcept (foldNegate flags negated body)
    pure (cls, depth + 1)
termination_by fuel => (fuel, 0)

/-- Reads class items and operations up to the closing `]`; `pending` is the left side of an
operation and `items` the items read since it, latest first. -/
def setExpr (flags : Flags) (nest : Nat) : Nat → Option (SetOp × CharClass × Nat) →
    List (CharClass × Nat) → ParseM (CharClass × Nat)
  | 0, _, _ => fail .exhausted
  | steps + 1, pending, items => do
    skipSpace flags
    let some c ← current | fail .unclosedClass
    let next ← charAt 1
    if c == '[' then
      match ← asciiItem flags with
      | some cls => setExpr flags nest steps pending ((cls, 0) :: items)
      | none =>
        let inner ← bracketed flags nest
        setExpr flags nest steps pending (inner :: items)
    else if c == ']' then
      bump
      let rhs := joinItems items.reverse
      match pending with
      | none => pure rhs
      | some (op, l, ld) => pure (op.apply flags l rhs.1, max ld rhs.2 + 1)
    else
      let op? : Option SetOp :=
        if c == '&' && next == some '&' then some .intersect
        else if c == '-' && next == some '-' then some .difference
        else if c == '~' && next == some '~' then some .symmetric
        else none
      match op? with
      | some op =>
        bump
        bump
        let item := joinItems items.reverse
        let lhs := match pending with
          | none => item
          | some (op0, l, ld) => (op0.apply flags l item.1, max ld item.2 + 1)
        setExpr flags nest steps (some (op, lhs)) []
      | none =>
        let cls ← classRange flags
        setExpr flags nest steps pending ((cls, 0) :: items)
termination_by steps => (nest, steps + 1)

end

end Parse

/-- The class of one character: with the `i` flag, the class of its case-equivalents.
Without the `u` flag a two-digit `\x` escape beyond ASCII would match a lone byte, and is
refused; any other character beyond ASCII matches its encoding, and the `i` flag folds only
ASCII letters. -/
def literalRegex (flags : Flags) (c : Char) (byte : Option Nat) : Except SyntaxError CharClass :=
  if !flags.unicode && (match byte with | some b => decide (b ≥ 0x80) | none => false) then
    .error .invalidUtf8
  else if !flags.caseless then .ok (CharClass.single c.toNat)
  else if flags.unicode then
    if hasFold c.toNat then .ok (CharClass.single c.toNat).caseFold
    else .ok (CharClass.single c.toNat)
  else if c.toNat ≥ 128 then .ok (CharClass.single c.toNat)
  else .ok (CharClass.single c.toNat).asciiCaseFold

def dotRegex (flags : Flags) : Except SyntaxError CharClass :=
  if !flags.unicode then .error .invalidUtf8
  else if flags.dotAll then .ok CharClass.any
  else if flags.crlf then .ok (CharClass.any.difference (CharClass.ofRanges [(0xA, 0xA), (0xD, 0xD)]))
  else .ok (CharClass.any.difference (CharClass.single 0xA))

def anchorRegex (flags : Flags) (start : Bool) : Look :=
  if !flags.multiLine then (if start then .textStart else .textEnd)
  else if flags.crlf then (if start then .lineStartCrlf else .lineEndCrlf)
  else if start then .lineStart else .lineEnd

def Flags.update (flags : Flags) : List (Char × Bool) → Flags
  | [] => flags
  | (c, on) :: rest =>
    let f := match c with
      | 'i' => { flags with caseless := on }
      | 'm' => { flags with multiLine := on }
      | 's' => { flags with dotAll := on }
      | 'U' => { flags with swapGreed := on }
      | 'u' => { flags with unicode := on }
      | 'x' => { flags with verbose := on }
      | 'R' => { flags with crlf := on }
      | _ => flags
    f.update rest

/-- What an open group becomes when it closes: a capture group is numbered from `1`, since `0`
is the whole match. -/
inductive Opener where
  | capture (index : Nat) (pos : 0 < index)
  | plain

instance : Inhabited Opener := ⟨.plain⟩

structure Level where
  branches : List Piece
  pieces : List Piece
  flags : Flags
  opener : Opener
  deriving Inhabited

namespace Parse

/-- Reads the flag letters of a flag group up to its `:` or `)`: each letter with whether it sets
(`true`) or clears its flag.  A letter twice, a second `-` or a `-` at the end is refused. -/
def flagItems : Nat → List (Char × Bool) → Bool → Bool → ParseM (List (Char × Bool))
  | 0, _, _, _ => fail .exhausted
  | fuel + 1, acc, negating, lastWasDash => do
    match ← current with
    | none => fail .unclosedGroup
    | some c =>
      if c == ':' || c == ')' then
        if lastWasDash then fail .badFlag
        pure acc.reverse
      else if c == '-' then
        if negating then fail .badFlag
        bump
        if ← atEnd then fail .badFlag
        flagItems fuel acc true true
      else
        if !"imsUuxR".contains c then fail .badFlag
        if acc.any (·.1 == c) then fail .badFlag
        bump
        if ← atEnd then fail .badFlag
        flagItems fuel ((c, !negating) :: acc) negating false

def groupName : ParseM String := do
  if ← atEnd then fail .badGroupName
  let rec go : Nat → List Char → ParseM (List Char)
    | 0, _ => fail .exhausted
    | fuel + 1, acc => do
      match ← current with
      | none => fail .badGroupName
      | some '>' =>
        bump
        pure acc.reverse
      | some c =>
        if !isNameChar c acc.isEmpty then fail .badGroupName
        bump
        go fuel (c :: acc)
  let name := String.ofList (← go (← remaining) [])
  if name.isEmpty then fail .badGroupName
  let cur ← get
  if cur.names.contains name then fail .duplicateGroupName
  set { cur with names := name :: cur.names }
  pure name

def count (flags : Flags) : ParseM (Option Nat) := do
  let rec blanks : Nat → ParseM Unit
    | 0 => pure ()
    | fuel + 1 => do
      match ← current with
      | some c =>
        if isBlank c then
          bump
          blanks fuel
        else pure ()
      | none => pure ()
  let rec digits : Nat → List Nat → ParseM (List Nat)
    | 0, acc => pure acc.reverse
    | fuel + 1, acc => do
      match ← current with
      | some c =>
        if c.isDigit then
          discard <| bumpSpace flags
          digits fuel ((c.toNat - '0'.toNat) :: acc)
        else pure acc.reverse
      | none => pure acc.reverse
  blanks (← remaining)
  let ds ← digits (← remaining) []
  blanks (← remaining)
  if ds.isEmpty then return none
  let n := ds.foldl (fun n d => n * 10 + d) 0
  if n ≥ Nat.pow 2 32 then fail .badRepetition
  pure (some n)

def counted (flags : Flags) : ParseM (Nat × Option Nat) := do
  unless ← bumpSpace flags do fail .badRepetition
  let lo ← count flags
  if ← atEnd then fail .badRepetition
  let bounds ← if (← current) == some ',' then do
      unless ← bumpSpace flags do fail .badRepetition
      if (← current) != some '}' then
        let some lo := lo | fail .badRepetition
        let some hi ← count flags | fail .badRepetition
        pure (lo, some hi)
      else
        let some lo := lo | fail .badRepetition
        pure (lo, none)
    else
      let some lo := lo | fail .badRepetition
      pure (lo, some lo)
  unless (← current) == some '}' do fail .badRepetition
  pure bounds

def bumpAny : List String → ParseM Bool
  | [] => pure false
  | s :: rest => do
    if ← bumpIf s then pure true else bumpAny rest

def lookAroundAhead : ParseM Bool := bumpAny ["?=", "?!", "?<=", "?<!"]

def lastPiece (pieces : List Piece) : ParseM (Piece × List Piece) :=
  match pieces with
  | p :: rest => if p.isFlags then fail .missingRepeated else pure (p, rest)
  | [] => fail .missingRepeated

def repeatPiece (flags : Flags) (p : Piece) (lo : Nat) (hi : Option Nat) (greedy : Bool) :
    Piece :=
  let greedy := greedy != flags.swapGreed
  { re := Expr.repetition lo hi greedy p.re, tree := Tree.repetition lo hi greedy p.tree,
    depth := p.depth + 1, sound := p.sound.repetition lo hi greedy }

/-- Reads the parts of a pattern.  `stack` holds the enclosing levels (innermost first),
`branches` and `pieces` the current level's alternatives and parts (latest first). -/
def parts : Nat → List Level → List Piece → List Piece → Flags → ParseM Piece
  | 0, _, _, _, _ => fail .exhausted
  | fuel + 1, stack, branches, pieces, flags => do
    skipSpace flags
    let some c ← current | do
      unless stack.isEmpty do fail .unclosedGroup
      pure (joinBranches (joinPieces pieces.reverse :: branches).reverse)
    let push (p : Piece) : ParseM Piece := parts fuel stack branches (p :: pieces) flags
    match c with
    | '(' =>
      bump
      skipSpace flags
      if ← lookAroundAhead then fail .lookAround
      let frame (opener : Opener) : Level := ⟨branches, pieces, flags, opener⟩
      if ← bumpAny ["?P<", "?<"] then
        let cur ← get
        let index := cur.captures + 1
        set { cur with captures := index }
        discard groupName
        parts fuel (frame (.capture index (Nat.succ_pos _)) :: stack) [] [] flags
      else if ← bumpIf "?" then
        if ← atEnd then fail .unclosedGroup
        let items ← flagItems (← remaining) [] false false
        let some close ← current | fail .unclosedGroup
        bump
        let inner := flags.update items
        if close == ')' then
          if items.isEmpty then fail .missingRepeated
          parts fuel stack branches ({ re := .empty, tree := .empty, depth := 0, isFlags := true, sound := .empty } :: pieces) inner
        else
          parts fuel (frame .plain :: stack) [] [] inner
      else
        let cur ← get
        let index := cur.captures + 1
        set { cur with captures := index }
        parts fuel (frame (.capture index (Nat.succ_pos _)) :: stack) [] [] flags
    | ')' =>
      match stack with
      | [] => fail .unopenedGroup
      | f :: rest =>
        bump
        let inner := joinBranches (joinPieces pieces.reverse :: branches).reverse
        let closed : Piece := match f.opener with
          | .capture i hi =>
            { re := .capture i inner.re, tree := .capture i inner.tree, depth := inner.depth + 1,
              sound := inner.sound.capture hi }
          | .plain =>
            { re := inner.re, tree := inner.tree, depth := inner.depth + 1, sound := inner.sound }
        parts fuel rest f.branches (closed :: f.pieces) f.flags
    | '|' =>
      bump
      parts fuel stack (joinPieces pieces.reverse :: branches) [] flags
    | '[' =>
      let (cls, depth) ← bracketed flags (nestLimit + 1)
      push { classPiece flags cls with depth }
    | '?' | '*' | '+' =>
      let (p, rest) ← lastPiece pieces
      bump
      let lazy ← if (← current) == some '?' then do bump; pure true else pure false
      let (lo, hi) := if c == '?' then (0, some 1) else if c == '*' then (0, none) else (1, none)
      parts fuel stack branches (repeatPiece flags p lo hi (!lazy) :: rest) flags
    | '{' =>
      let (p, rest) ← lastPiece pieces
      let (lo, hi) ← counted flags
      let lazy ← if (← bumpSpace flags) && (← current) == some '?' then do bump; pure true
        else pure false
      if (match hi with | some h => decide (h < lo) | none => false) then fail .badRepetition
      parts fuel stack branches (repeatPiece flags p lo hi (!lazy) :: rest) flags
    | '.' =>
      bump
      push (classPiece flags (← liftExcept (dotRegex flags)))
    | '^' =>
      bump
      push (lookPiece (anchorRegex flags true))
    | '$' =>
      bump
      push (lookPiece (anchorRegex flags false))
    | '\\' =>
      match ← escape flags with
      | .literal d b => push (classPiece flags (← liftExcept (literalRegex flags d b)))
      | .cls cls => push (classPiece flags cls)
      | .look l => push (lookPiece l)
    | d =>
      bump
      push (classPiece flags (← liftExcept (literalRegex flags d none)))

end Parse

/-- A pattern read: the expression that texts are searched with, and its normal form, from which
the pattern's automata are measured. -/
structure Parsed where
  expr : Expr
  tree : Tree
  sound : expr.Sound tree

instance : Inhabited Parsed := ⟨⟨.empty, .empty, .empty⟩⟩

def parsePattern (pattern : String) : Except SyntaxError Parsed := do
  let src := pattern.toList.toArray
  let (p, _) ← (Parse.parts (src.size + 1) [] [] [] {}).run ⟨src, 0, 0, []⟩
  if p.depth > nestLimit then .error .tooDeep else pure ⟨p.re, p.tree, p.sound⟩

def Expr.parse (pattern : String) : Except SyntaxError Expr := (parsePattern pattern).map (·.expr)

end Highlight.Regex
