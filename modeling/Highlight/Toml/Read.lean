import Highlight.Toml.Value

/-!
# Reading the pieces of a TOML text

A `Reader` walks the characters of a TOML text.  This module reads the pieces a document is made
of: white space (spaces and tabs), line ends (`LF` or `CR LF`; a lone `CR` is refused), comments,
keys, the four kinds of strings, numbers and date-times.

Control characters other than tab are refused in comments and strings, as is `DEL`.  A basic
string knows the escapes `\b \t \n \f \r \" \\`, `\uXXXX` and `\UXXXXXXXX` (a Unicode scalar
value), and in its multi-line form a backslash at the end of a line drops the line end and all
white space after it.  A multi-line string drops a line end right after its opening quotes and
may hold up to two of its own quotes in a row.

Integers are decimal (no leading zeros), hexadecimal, octal or binary, with single underscores
between digits, and must fit in 64 signed bits.  A float has a fraction, an exponent or both,
or is `inf` or `nan` with an optional sign; one so large that it rounds to positive infinity is
refused.  Date-times are kept as their text once their fields are checked.
-/

namespace Highlight.Toml

structure Reader where
  src : Array Char
  pos : Nat

abbrev ReadM := StateT Reader (Except String)

namespace Read

def fail {α : Type} (msg : String) : ReadM α := throw msg

def peekAt (k : Nat) : ReadM (Option Char) := do
  let r ← get
  pure r.src[r.pos + k]?

def peek : ReadM (Option Char) := peekAt 0

def bumpN (n : Nat) : ReadM Unit := modify fun r => { r with pos := r.pos + n }

def bump : ReadM Unit := bumpN 1

/-- The number of characters left, plus one: a bound for every loop of the reader. -/
def remaining : ReadM Nat := do
  let r ← get
  pure (r.src.size - r.pos + 1)

def startsWith (s : String) : ReadM Bool := do
  let r ← get
  let cs := s.toList
  pure ((r.src.extract r.pos (r.pos + cs.length)).toList == cs)

def expect (c : Char) : ReadM Unit := do
  if (← peek) == some c then bump else fail s!"expected {c.quote}"

def isDigit (c : Char) : Bool := '0' ≤ c && c ≤ '9'

def isWs (c : Char) : Bool := c == ' ' || c == '\t'

/-- Characters allowed in a comment and in a literal string: tab, printable ASCII, and every
character beyond ASCII. -/
def isPlain (c : Char) : Bool := c == '\t' || (' ' ≤ c && c ≤ '~') || c.toNat ≥ 0x80

def isBareKeyChar (c : Char) : Bool :=
  ('a' ≤ c && c ≤ 'z') || ('A' ≤ c && c ≤ 'Z') || isDigit c || c == '_' || c == '-'

def takeWhile (p : Char → Bool) : ReadM (List Char) := do
  let rec go : Nat → List Char → ReadM (List Char)
    | 0, acc => pure acc.reverse
    | fuel + 1, acc => do
      match ← peek with
      | some c => if p c then do bump; go fuel (c :: acc) else pure acc.reverse
      | none => pure acc.reverse
  go (← remaining) []

def skipWs : ReadM Unit := do let _ ← takeWhile isWs

/-- Reads a line end if one comes next; a `CR` must be followed by `LF`. -/
def newline? : ReadM Bool := do
  match ← peek with
  | some '\n' => bump; pure true
  | some '\r' =>
    if (← peekAt 1) == some '\n' then do bumpN 2; pure true else fail "lone carriage return"
  | _ => pure false

def comment? : ReadM Unit := do
  if (← peek) != some '#' then return
  bump
  let _ ← takeWhile isPlain
  match ← peek with
  | none | some '\n' | some '\r' => pure ()
  | some _ => fail "control character in comment"

/-- Reads the rest of a line after an expression: white space, a comment, then the line end or
the end of the text. -/
def endOfLine : ReadM Unit := do
  skipWs
  comment?
  if (← peek).isNone then return
  unless ← newline? do fail "expected the end of the line"

def skipBlank : ReadM Unit := do
  let rec go : Nat → ReadM Unit
    | 0 => pure ()
    | fuel + 1 => do
      skipWs
      comment?
      if ← newline? then go fuel else pure ()
  go (← remaining)

def hexValue (c : Char) : Option Nat :=
  if isDigit c then some (c.toNat - '0'.toNat)
  else if 'a' ≤ c && c ≤ 'f' then some (c.toNat - 'a'.toNat + 10)
  else if 'A' ≤ c && c ≤ 'F' then some (c.toNat - 'A'.toNat + 10)
  else none

def unicodeEscape (n : Nat) : ReadM Char := do
  let rec go : Nat → Nat → ReadM Nat
    | 0, v => pure v
    | k + 1, v => do
      match (← peek).bind hexValue with
      | some d => bump; go k (16 * v + d)
      | none => fail "bad unicode escape"
  let v ← go n 0
  if v < 0xD800 || (0xE000 ≤ v && v ≤ 0x10FFFF) then pure (Char.ofNat v)
  else fail "escape is no unicode scalar value"

def escape : ReadM Char := do
  let some c ← peek | fail "unterminated escape"
  bump
  match c with
  | 'b' => pure (Char.ofNat 8)
  | 't' => pure '\t'
  | 'n' => pure '\n'
  | 'f' => pure (Char.ofNat 12)
  | 'r' => pure '\r'
  | '"' => pure '"'
  | '\\' => pure '\\'
  | 'u' => unicodeEscape 4
  | 'U' => unicodeEscape 8
  | _ => fail "bad escape"

def isBasicChar (c : Char) : Bool := isPlain c && c != '"' && c != '\\'

def basicBody : ReadM String := do
  let rec go : Nat → List Char → ReadM String
    | 0, _ => fail "unterminated string"
    | fuel + 1, acc => do
      match ← peek with
      | some '"' => bump; pure (String.ofList acc.reverse)
      | some '\\' => bump; let c ← escape; go fuel (c :: acc)
      | some c => if isBasicChar c then do bump; go fuel (c :: acc) else fail "bad character in string"
      | none => fail "unterminated string"
  go (← remaining) []

def literalBody : ReadM String := do
  let cs ← takeWhile fun c => isPlain c && c != '\''
  expect '\''
  pure (String.ofList cs)

def run (c : Char) (limit : Nat) : ReadM Nat := do
  let rec go : Nat → Nat → ReadM Nat
    | 0, n => pure n
    | k + 1, n => do if (← peekAt n) == some c then go k (n + 1) else pure n
  go limit 0

/-- Reads the body of a multi-line string after its three opening quotes `q`: an escape reader
for basic strings, none for literal ones. -/
def multiLineBody (q : Char) (basic : Bool) : ReadM String := do
  let _ ← newline?
  let rec go : Nat → List Char → ReadM String
    | 0, _ => fail "unterminated string"
    | fuel + 1, acc => do
      match ← peek with
      | none => fail "unterminated string"
      | some c =>
        if c == q then do
          let n ← run q 5
          bumpN n
          let quotes := List.replicate (n - 3) q
          if n ≥ 3 then pure (String.ofList (acc.reverse ++ quotes))
          else go fuel (List.replicate n q ++ acc)
        else if c == '\n' || c == '\r' then do
          let _ ← newline?
          go fuel ('\n' :: acc)
        else if basic && c == '\\' then do
          bump
          match ← peek with
          | some d =>
            if isWs d || d == '\n' || d == '\r' then do
              skipWs
              unless ← newline? do fail "bad escape"
              skipBlankLines
              go fuel acc
            else do
              let e ← escape
              go fuel (e :: acc)
          | none => fail "unterminated string"
        else if (if basic then isBasicChar c else isPlain c) then do
          bump
          go fuel (c :: acc)
        else fail "bad character in string"
  go (← remaining) []
where
  /-- Skips white space and line ends after a line-ending backslash. -/
  skipBlankLines : ReadM Unit := do
    let rec skip : Nat → ReadM Unit
      | 0 => pure ()
      | fuel + 1 => do
        skipWs
        if ← newline? then skip fuel else pure ()
    skip (← remaining)

def string : ReadM String := do
  if ← startsWith "\"\"\"" then do bumpN 3; multiLineBody '"' true
  else if ← startsWith "'''" then do bumpN 3; multiLineBody '\'' false
  else if (← peek) == some '"' then do bump; basicBody
  else do expect '\''; literalBody

def simpleKey : ReadM String := do
  match ← peek with
  | some '"' => bump; basicBody
  | some '\'' => bump; literalBody
  | _ =>
    let cs ← takeWhile isBareKeyChar
    if cs.isEmpty then fail "expected a key" else pure (String.ofList cs)

/-- The bound on nesting: arrays and inline tables nest fewer levels deep, and a dotted key has
fewer parts. -/
def nestingLimit : Nat := 80

def key : ReadM (List String) := do
  let first ← simpleKey
  let rec more : Nat → List String → ReadM (List String)
    | 0, acc => pure acc.reverse
    | fuel + 1, acc => do
      let save ← get
      skipWs
      if (← peek) == some '.' then do
        bump
        skipWs
        let k ← simpleKey
        more fuel (k :: acc)
      else do
        set save
        pure acc.reverse
  let parts ← more (← remaining) [first]
  if parts.length ≥ nestingLimit then fail "key nested too deep"
  pure parts

def digitsValue (base : Nat) (cs : List Char) : Option Nat :=
  let digit (c : Char) : Option Nat := (hexValue c).bind fun d => if d < base then some d else none
  let rec go : List Char → Bool → Nat → Option Nat
    | [], afterDigit, v => if afterDigit then some v else none
    | '_' :: rest, afterDigit, v => if afterDigit then go rest false v else none
    | c :: rest, _, v => (digit c).bind fun d => go rest true (base * v + d)
  match cs with
  | [] => none
  | c :: _ => if c == '_' then none else go cs false 0

/-- The value of a decimal integer without sign: `0`, or digits not starting with `0`. -/
def unsignedDecimal (cs : List Char) : Option Nat :=
  match cs with
  | ['0'] => some 0
  | '0' :: _ => none
  | _ => digitsValue 10 cs

def intMax : Nat := Nat.pow 2 63 - 1

def integerOf (cs : List Char) : Option Int :=
  let bounded (v : Nat) : Option Int := if v ≤ intMax then some (Int.ofNat v) else none
  match cs with
  | '0' :: 'x' :: rest => (digitsValue 16 rest).bind bounded
  | '0' :: 'o' :: rest => (digitsValue 8 rest).bind bounded
  | '0' :: 'b' :: rest => (digitsValue 2 rest).bind bounded
  | '+' :: rest => (unsignedDecimal rest).bind bounded
  | '-' :: rest => (unsignedDecimal rest).bind fun v =>
    if v ≤ intMax + 1 then some (-Int.ofNat v) else none
  | _ => (unsignedDecimal cs).bind bounded

def plainDigits (cs : List Char) : Option (List Char) :=
  (digitsValue 10 cs).map fun _ => cs.filter (· != '_')

/-- `2^1024 - 2^970`: the least value that rounds to infinity as a 64-bit float. -/
def floatOverflow : Nat := Nat.pow 2 1024 - Nat.pow 2 970

def overflows (m : Nat) (e : Int) : Bool :=
  if m == 0 then false
  else if e > 400 then true
  else if (toString m).length + e < 300 then false
  else if e ≥ 0 then decide (m * Nat.pow 10 e.toNat ≥ floatOverflow)
  else decide (m ≥ floatOverflow * Nat.pow 10 (-e).toNat)

/-- Whether a number token is a float, and not one that rounds to positive infinity. -/
def isFloat (cs : List Char) : Bool :=
  let (negative, body) := match cs with
    | '+' :: rest => (false, rest)
    | '-' :: rest => (true, rest)
    | _ => (false, cs)
  if body == ['i', 'n', 'f'] || body == ['n', 'a', 'n'] then true
  else
    let (mantissa, exponent) := match body.findIdx? (fun c => c == 'e' || c == 'E') with
      | some i => (body.take i, some (body.drop (i + 1)))
      | none => (body, none)
    let (whole, fraction) := match mantissa.findIdx? (· == '.') with
      | some i => (mantissa.take i, some (mantissa.drop (i + 1)))
      | none => (mantissa, none)
    let expValue : Option Int := match exponent with
      | none => some 0
      | some ('+' :: ds) => (digitsValue 10 ds).map Int.ofNat
      | some ('-' :: ds) => (digitsValue 10 ds).map fun v => -Int.ofNat v
      | some ds => (digitsValue 10 ds).map Int.ofNat
    let fracDigits : Option (List Char) := match fraction with
      | none => some []
      | some ds => plainDigits ds
    match unsignedDecimal whole, fracDigits, expValue with
    | some _, some fd, some e =>
      if fraction.isNone && exponent.isNone then false
      else
        let m := (whole.filter (· != '_') ++ fd).foldl (fun n c => 10 * n + (c.toNat - '0'.toNat)) 0
        negative || !overflows m (e - fd.length)
    | _, _, _ => false

def fixedDigits (n : Nat) : ReadM Nat := do
  let rec go : Nat → Nat → ReadM Nat
    | 0, v => pure v
    | k + 1, v => do
      match ← peek with
      | some c => if isDigit c then do bump; go k (10 * v + (c.toNat - '0'.toNat)) else fail "bad date-time"
      | none => fail "bad date-time"
  go n 0

def timeOfDay : ReadM Unit := do
  let h ← fixedDigits 2
  expect ':'
  let m ← fixedDigits 2
  expect ':'
  let s ← fixedDigits 2
  if h > 23 || m > 59 || s > 60 then fail "bad time"
  if (← peek) == some '.' then do
    bump
    let ds ← takeWhile isDigit
    if ds.isEmpty then fail "bad time"

def daysIn (year month : Nat) : Nat :=
  if month == 2 then
    if year % 4 == 0 && (year % 100 != 0 || year % 400 == 0) then 29 else 28
  else if month == 4 || month == 6 || month == 9 || month == 11 then 30 else 31

def dateTime : ReadM Unit := do
  let y ← fixedDigits 4
  expect '-'
  let mo ← fixedDigits 2
  expect '-'
  let d ← fixedDigits 2
  if mo < 1 || mo > 12 || d < 1 || d > daysIn y mo then fail "bad date"
  let delim ← peek
  let timeFollows := match delim with
    | some 'T' | some 't' => true
    | some ' ' => true
    | _ => false
  if !timeFollows then return
  if delim == some ' ' then
    match ← peekAt 1, ← peekAt 2, ← peekAt 3 with
    | some a, some b, some ':' => if !(isDigit a && isDigit b) then return
    | _, _, _ => return
  bump
  timeOfDay
  match ← peek with
  | some 'Z' | some 'z' => bump
  | some '+' | some '-' =>
    bump
    let oh ← fixedDigits 2
    expect ':'
    let om ← fixedDigits 2
    if oh > 23 || om > 59 then fail "bad offset"
  | _ => pure ()

def dateTimeAhead : ReadM Bool := do
  let ds ← (List.range 5).mapM peekAt
  match ds with
  | [some a, some b, some c, some d, some '-'] => pure (isDigit a && isDigit b && isDigit c && isDigit d)
  | some a :: some b :: some ':' :: _ => pure (isDigit a && isDigit b)
  | _ => pure false

def isWordChar (c : Char) : Bool := isBareKeyChar c || c == '+' || c == '.'

def scalar : ReadM Value := do
  if ← dateTimeAhead then
    let start := (← get).pos
    if (← peekAt 2) == some ':' then timeOfDay else dateTime
    let r ← get
    return .datetime (String.ofList (r.src.extract start r.pos).toList)
  let cs ← takeWhile isWordChar
  match cs with
  | ['t', 'r', 'u', 'e'] => pure (.boolean true)
  | ['f', 'a', 'l', 's', 'e'] => pure (.boolean false)
  | _ =>
    match integerOf cs with
    | some i => pure (.integer i)
    | none => if isFloat cs then pure (.float (String.ofList cs)) else fail "bad value"

end Read

end Highlight.Toml
