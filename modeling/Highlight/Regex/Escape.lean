import Highlight.Regex.Syntax
import Highlight.Regex.Property
import Highlight.Unicode.Alphanumeric

/-!
# Reading a pattern: the cursor, flags and escapes

The pieces from which `Expr.parse` reads a pattern: the `Cursor` over the pattern's characters,
the `Flags` in force, the reasons a pattern is refused (`SyntaxError`), and escapes.

An escape is `\n`, `\t` and the like, a hexadecimal `\x41`, `\u{263A}` or `\U0001F600`, any
ASCII character that is neither a letter, a digit, `<` nor `>` standing for itself, one of the
classes `\d`, `\s`, `\w` (Unicode-aware, or ASCII without the `u` flag), their negations `\D`,
`\S`, `\W`, a property class `\p{…}` or `\P{…}`, or an assertion `\A`, `\z`, `\b`, `\B`, `\<`,
`\>`, `\b{start}`, `\b{end}`, `\b{start-half}`, `\b{end-half}`.  A digit after a backslash would
be a back-reference, which the dialect does not have.

In verbose mode (flag `x`) blanks and `#` comments between the parts of a pattern do not count.
-/

namespace Highlight.Regex

open Highlight.Unicode

inductive SyntaxError where
  | unclosedGroup
  | unopenedGroup
  | unclosedClass
  | badClassRange
  | badClassEscape
  | missingRepeated
  | badRepetition
  | badEscape
  | badHex
  | backreference
  | lookAround
  | badFlag
  | badGroupName
  | duplicateGroupName
  | tooDeep
  | unknownProperty
  | invalidUtf8
  | unicodeUnavailable
  | exhausted
  deriving Repr, DecidableEq, Inhabited

structure Flags where
  caseless : Bool := false
  multiLine : Bool := false
  dotAll : Bool := false
  swapGreed : Bool := false
  unicode : Bool := true
  crlf : Bool := false
  verbose : Bool := false
  deriving Repr, Inhabited

/-- The deepest nesting of groups, repetitions, alternations, concatenations and classes that a
pattern may have. -/
def nestLimit : Nat := 250

structure Cursor where
  src : Array Char
  pos : Nat
  captures : Nat
  names : List String

abbrev ParseM := StateT Cursor (Except SyntaxError)

namespace Parse

def fail {α : Type} (e : SyntaxError) : ParseM α := throw e

def current : ParseM (Option Char) := do
  let c ← get
  pure c.src[c.pos]?

def charAt (k : Nat) : ParseM (Option Char) := do
  let c ← get
  pure c.src[c.pos + k]?

def atEnd : ParseM Bool := do
  let c ← get
  pure (c.pos ≥ c.src.size)

def bump : ParseM Unit := modify fun c => { c with pos := c.pos + 1 }

/-- The number of characters left, a bound for every loop of the reader. -/
def remaining : ParseM Nat := do
  let c ← get
  pure (c.src.size - c.pos + 1)

def isBlank (c : Char) : Bool := spaceSet.contains c.toNat

def skipComment : Nat → ParseM Unit
  | 0 => pure ()
  | fuel + 1 => do
    match ← current with
    | none => pure ()
    | some c =>
      bump
      if c == '\n' then pure () else skipComment fuel

def skipSpace (flags : Flags) : ParseM Unit := do
  if !flags.verbose then return
  let rec go : Nat → ParseM Unit
    | 0 => pure ()
    | fuel + 1 => do
      match ← current with
      | some c =>
        if isBlank c then
          bump
          go fuel
        else if c == '#' then
          bump
          skipComment (← remaining)
          go fuel
        else pure ()
      | none => pure ()
  go (← remaining)

def bumpSpace (flags : Flags) : ParseM Bool := do
  bump
  skipSpace flags
  pure !(← atEnd)

/-- The character after the current one, in verbose mode the first after it that is neither
blank nor the `#` that starts a comment. -/
def peekSpace (flags : Flags) : ParseM (Option Char) := do
  if !flags.verbose then return ← charAt 1
  if ← atEnd then return none
  let c ← get
  let rest := (c.src.extract (c.pos + 1) c.src.size).toList
  let rec scan (inComment : Bool) : List Char → Option Char
    | [] => none
    | d :: ds =>
      if isBlank d then scan inComment ds
      else if !inComment && d == '#' then scan true ds
      else some d
  pure ((scan false rest).orElse fun _ => rest.head?)

def bumpIf (s : String) : ParseM Bool := do
  let c ← get
  let cs := s.toList
  if (c.src.extract c.pos (c.pos + cs.length)).toList == cs then
    set { c with pos := c.pos + cs.length }
    pure true
  else pure false

end Parse

open Parse

inductive ShortClass where
  | digit | space | word
  deriving Repr, DecidableEq, Inhabited

inductive Escape where
  /-- A character; `byte` is the value of a two-digit `\x` escape. -/
  | literal (c : Char) (byte : Option Nat)
  /-- A class, its negation and case folding already applied. -/
  | cls (c : CharClass)
  /-- A zero-width assertion. -/
  | look (l : Look)
  deriving Inhabited

/-- A two-digit `\x` escape keeps its value as a byte; the braced form `\x{…}` names a character. -/
def Escape.withByte : Escape → Escape
  | .literal c _ => .literal c (some c.toNat)
  | e => e

def asciiClass? (name : String) : Option (List (Nat × Nat)) :=
  match name with
  | "alnum" => some [(0x30, 0x39), (0x41, 0x5A), (0x61, 0x7A)]
  | "alpha" => some [(0x41, 0x5A), (0x61, 0x7A)]
  | "ascii" => some [(0x0, 0x7F)]
  | "blank" => some [(0x9, 0x9), (0x20, 0x20)]
  | "cntrl" => some [(0x0, 0x1F), (0x7F, 0x7F)]
  | "digit" => some [(0x30, 0x39)]
  | "graph" => some [(0x21, 0x7E)]
  | "lower" => some [(0x61, 0x7A)]
  | "print" => some [(0x20, 0x7E)]
  | "punct" => some [(0x21, 0x2F), (0x3A, 0x40), (0x5B, 0x60), (0x7B, 0x7E)]
  | "space" => some [(0x9, 0xD), (0x20, 0x20)]
  | "upper" => some [(0x41, 0x5A)]
  | "word" => some [(0x30, 0x39), (0x41, 0x5A), (0x5F, 0x5F), (0x61, 0x7A)]
  | "xdigit" => some [(0x30, 0x39), (0x41, 0x46), (0x61, 0x66)]
  | _ => none

def shortClass (unicode : Bool) : ShortClass → CharClass
  | .digit => if unicode then ⟨digitSet.toRanges⟩ else CharClass.range 0x30 0x39
  | .space => if unicode then ⟨spaceSet.toRanges⟩
    else CharClass.ofRanges [(0x9, 0xD), (0x20, 0x20)]
  | .word => if unicode then ⟨wordSet.toRanges⟩
    else CharClass.ofRanges [(0x30, 0x39), (0x41, 0x5A), (0x5F, 0x5F), (0x61, 0x7A)]

/-- The complement of a class: among all characters in Unicode mode, among the 256 byte values
otherwise. -/
def negateIn (unicode : Bool) (c : CharClass) : CharClass :=
  if unicode then c.negate else c.negate.intersect (CharClass.range 0 0xFF)

def foldIn (unicode : Bool) (c : CharClass) : CharClass :=
  if unicode then c.caseFold else c.asciiCaseFold

/-- Folds (when the flags ignore case) and negates (when asked) a class; outside Unicode mode
the result must be ASCII, since a byte beyond it would split a character. -/
def foldNegate (flags : Flags) (negated : Bool) (c : CharClass) : Except SyntaxError CharClass :=
  let c := if flags.caseless then foldIn flags.unicode c else c
  let c := if negated then negateIn flags.unicode c else c
  if !flags.unicode && !c.isAscii then .error .invalidUtf8 else .ok c

def splitFirst (s sep : String) : Option (String × String) :=
  match s.splitOn sep with
  | first :: rest@(_ :: _) => some (first, sep.intercalate rest)
  | _ => none

def isNameChar (c : Char) (first : Bool) : Bool :=
  if first then c == '_' || isAlphabetic c
  else c == '_' || c == '.' || c == '[' || c == ']' || isAlphanumeric c

namespace Parse

/-- Reads the hexadecimal digits of `\x`, `\u` or `\U`: `digits` of them, or any number between
braces.  The value must be a Unicode scalar value. -/
def hexEscape (flags : Flags) (digits : Nat) : ParseM Char := do
  unless ← bumpSpace flags do fail .badEscape
  let toChar (n : Nat) : ParseM Char :=
    if n < 0xD800 || (0xDFFF < n && n ≤ 0x10FFFF) then pure (Char.ofNat n) else fail .badHex
  if (← current) == some '{' then
    let rec braced : Nat → Nat → Nat → ParseM Char
      | 0, _, _ => fail .exhausted
      | fuel + 1, value, count => do
        if !(← bumpSpace flags) then fail .badEscape
        match ← current with
        | some '}' =>
          discard <| bumpSpace flags
          if count == 0 then fail .badHex
          else toChar value
        | some c =>
          match hexValue? c with
          | some d => braced fuel (value * 16 + d) (count + 1)
          | none => fail .badHex
        | none => fail .badEscape
    braced (← remaining) 0 0
  else
    let rec fixed : Nat → Nat → ParseM Char
      | 0, value => do discard <| bumpSpace flags; toChar value
      | k + 1, value => do
        match ← current with
        | some c =>
          match hexValue? c with
          | some d =>
            let value := value * 16 + d
            if k == 0 then fixed 0 value
            else if ← bumpSpace flags then fixed k value else fail .badEscape
          | none => fail .badHex
        | none => fail .badEscape
    fixed digits 0

def propertyEscape (flags : Flags) (negated : Bool) : ParseM CharClass := do
  unless ← bumpSpace flags do fail .badEscape
  let some c ← current | fail .badEscape
  let (name, value, notEqual) ← if c == '{' then do
      let rec collect : Nat → List Char → ParseM (List Char)
        | 0, _ => fail .exhausted
        | fuel + 1, acc => do
          if !(← bumpSpace flags) then fail .badEscape
          match ← current with
          | some '}' => bump; pure acc.reverse
          | some d => collect fuel (d :: acc)
          | none => fail .badEscape
      let body := String.ofList (← collect (← remaining) [])
      match splitFirst body "!=" with
      | some (n, v) => pure (n, some v, true)
      | none =>
        match splitFirst body ":" with
        | some (n, v) => pure (n, some v, false)
        | none =>
          match splitFirst body "=" with
          | some (n, v) => pure (n, some v, false)
          | none => pure (body, none, false)
    else do
      if c == '\\' then fail .badEscape
      discard <| bumpSpace flags
      pure (String.singleton c, none, false)
  if !flags.unicode then fail .unicodeUnavailable
  let cls? := match value with
    | some v => namedValueClass? name v
    | none => namedClass? name
  let some cls := cls? | fail .unknownProperty
  match foldNegate flags (negated != notEqual) cls with
  | .ok c => pure c
  | .error e => fail e

/-- Reads the word between braces after `\b`, if the brace starts one of the special word
boundaries; otherwise leaves the brace for a counted repetition. -/
def specialBoundary (flags : Flags) : ParseM (Option Look) := do
  let start ← get
  unless ← bumpSpace flags do fail .badEscape
  let isWordish (c : Char) : Bool := c.isAlpha || c == '-'
  let some first ← current | fail .badEscape
  if !isWordish first then
    set start
    return none
  let rec collect : Nat → List Char → ParseM (List Char)
    | 0, _ => fail .exhausted
    | fuel + 1, acc => do
      match ← current with
      | some c =>
        if isWordish c then
          discard <| bumpSpace flags
          collect fuel (c :: acc)
        else pure acc.reverse
      | none => pure acc.reverse
  let word := String.ofList (← collect (← remaining) [])
  unless (← current) == some '}' do fail .badEscape
  bump
  let u := flags.unicode
  match word with
  | "start" => pure (some (.wordStart u))
  | "end" => pure (some (.wordEnd u))
  | "start-half" => pure (some (.wordStartHalf u))
  | "end-half" => pure (some (.wordEndHalf u))
  | _ => fail .badEscape

def escape (flags : Flags) : ParseM Escape := do
  bump
  let some c ← current | fail .badEscape
  if '0' ≤ c && c ≤ '9' then fail .backreference
  if c == 'x' then
    let braced := (← peekSpace flags) == some '{'
    let lit := Escape.literal (← hexEscape flags 2) none
    return if braced then lit else lit.withByte
  if c == 'u' then return .literal (← hexEscape flags 4) none
  if c == 'U' then return .literal (← hexEscape flags 8) none
  if c == 'p' || c == 'P' then return .cls (← propertyEscape flags (c == 'P'))
  let short : Option (ShortClass × Bool) := match c with
    | 'd' => some (.digit, false) | 'D' => some (.digit, true)
    | 's' => some (.space, false) | 'S' => some (.space, true)
    | 'w' => some (.word, false) | 'W' => some (.word, true)
    | _ => none
  if let some (k, negated) := short then
    bump
    let cls := shortClass flags.unicode k
    let cls := if negated then negateIn flags.unicode cls else cls
    if !flags.unicode && !cls.isAscii then fail .invalidUtf8
    return .cls cls
  bump
  if isMeta c || (c.toNat < 128 && !c.isAlphanum && c != '<' && c != '>') then
    return .literal c none
  let u := flags.unicode
  match c with
  | 'a' => pure (.literal '\x07' none)
  | 'f' => pure (.literal '\x0C' none)
  | 't' => pure (.literal '\t' none)
  | 'n' => pure (.literal '\n' none)
  | 'r' => pure (.literal '\r' none)
  | 'v' => pure (.literal '\x0B' none)
  | 'A' => pure (.look .textStart)
  | 'z' => pure (.look .textEnd)
  | 'b' =>
    if (← current) == some '{' then
      match ← specialBoundary flags with
      | some l => pure (.look l)
      | none => pure (.look (.wordBoundary u))
    else pure (.look (.wordBoundary u))
  | 'B' => pure (.look (.notWordBoundary u))
  | '<' => pure (.look (.wordStart u))
  | '>' => pure (.look (.wordEnd u))
  | _ => fail .badEscape
where
  isMeta (c : Char) : Bool := "\\.+*?()|[]\x7b\x7d^$#&-~".contains c

end Parse

end Highlight.Regex
