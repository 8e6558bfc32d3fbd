import Highlight.Toml.Read
import Highlight.Toml.Document

/-!
# Parsing a TOML document

A document is a sequence of lines, each blank, a comment, a key-value pair or a table header
(`[a.b]` or `[[a.b]]`), with white space and a comment allowed after it.  Key-value pairs go into
the table of the last header, or the root before any header.  Arrays may span lines and hold
comments and a trailing comma; inline tables (`{ a = 1, b.c = 2 }`) stay on one line and have no
trailing comma.  Arrays and inline tables nest fewer than `nestingLimit` levels deep.  The table
rules of `Highlight.Toml.Document` decide which headers and keys may follow which.

`Toml.parse` gives the root table, every table in key order, or the reason the text is no TOML
document.
-/

namespace Highlight.Toml

namespace Read

/-- The table of an inline table's pairs, keys given in the order written. -/
def inlineTable (pairs : List (List String × Value)) : Except String Value := do
  let t ← pairs.foldlM (fun (t : Tab) (path, v) =>
    match path.reverse with
    | key :: rest => t.assign rest.reverse key v
    | [] => throw "empty key") { entries := [] }
  pure t.node.freeze

mutual

/-- Reads a value that stands inside `depth` arrays and inline tables; one more would reach the
nesting limit. -/
def value : Nat → Nat → ReadM Value
  | 0, _ => fail "nesting too deep"
  | fuel + 1, depth => do
    match ← peek with
    | some '"' | some '\'' => pure (.string (← string))
    | some '[' =>
      bump
      if depth + 1 ≥ nestingLimit then fail "nesting too deep"
      pure (.array (← arrayItems fuel (depth + 1) []))
    | some '{' =>
      bump
      if depth + 1 ≥ nestingLimit then fail "nesting too deep"
      skipWs
      if (← peek) == some '}' then do
        bump
        pure (.table [])
      else do
        let pairs ← inlinePairs fuel (depth + 1) []
        match inlineTable pairs with
        | .ok v => pure v
        | .error e => fail e
    | some _ => scalar
    | none => fail "expected a value"

def arrayItems : Nat → Nat → List Value → ReadM (List Value)
  | 0, _, _ => fail "nesting too deep"
  | fuel + 1, depth, acc => do
    skipBlank
    if (← peek) == some ']' then do
      bump
      return acc.reverse
    let v ← value fuel depth
    skipBlank
    match ← peek with
    | some ',' => bump; arrayItems fuel depth (v :: acc)
    | some ']' => bump; pure (v :: acc).reverse
    | _ => fail "expected `,` or `]` in array"

def inlinePairs : Nat → Nat → List (List String × Value) → ReadM (List (List String × Value))
  | 0, _, _ => fail "nesting too deep"
  | fuel + 1, depth, acc => do
    let k ← key
    skipWs
    expect '='
    skipWs
    let v ← value fuel depth
    skipWs
    match ← peek with
    | some ',' => bump; skipWs; inlinePairs fuel depth ((k, v) :: acc)
    | some '}' => bump; pure ((k, v) :: acc).reverse
    | _ => fail "expected `,` or `\x7d` in inline table"

end

structure DocState where
  root : Tab
  current : List String

def splitLast (path : List String) : Except String (List String × String) :=
  match path.reverse with
  | k :: rest => pure (rest.reverse, k)
  | [] => throw "empty key"

def liftTree {α : Type} : Except String α → ReadM α
  | .ok a => pure a
  | .error e => fail e

def header (st : DocState) : ReadM DocState := do
  let isArray := (← peek) == some '['
  if isArray then bump
  skipWs
  let path ← key
  skipWs
  expect ']'
  if isArray then expect ']'
  let (parents, k) ← liftTree (splitLast path)
  let root ← liftTree (if isArray then st.root.appendTable parents k else st.root.defineTable parents k)
  pure ⟨root, path⟩

def keyValue (st : DocState) : ReadM DocState := do
  let path ← key
  skipWs
  expect '='
  skipWs
  let v ← value (← remaining) 0
  let (parents, k) ← liftTree (splitLast path)
  let root ← liftTree (st.root.assignAt st.current parents k v)
  pure { st with root }

def lines : Nat → DocState → ReadM DocState
  | 0, st => pure st
  | fuel + 1, st => do
    skipWs
    match ← peek with
    | none => pure st
    | some '#' => endOfLine; lines fuel st
    | some '\n' | some '\r' => endOfLine; lines fuel st
    | some '[' =>
      bump
      let st ← header st
      endOfLine
      lines fuel st
    | some _ =>
      let st ← keyValue st
      endOfLine
      lines fuel st

end Read

def parse (text : String) : Except String Table :=
  let chars := text.toList.toArray
  let start := if chars[0]? == some (Char.ofNat 0xFEFF) then 1 else 0
  match (Read.lines (chars.size + 1) ⟨{ entries := [] }, []⟩).run ⟨chars, start⟩ with
  | .ok (st, r) =>
    if r.pos < chars.size then .error "unexpected text"
    else match st.root.node.freeze with
      | .table t => .ok t
      | _ => .error "no table"
  | .error e => .error e

end Highlight.Toml
