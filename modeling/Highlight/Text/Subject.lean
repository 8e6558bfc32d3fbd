/-!
# Lines as searched texts

A line is searched character by character, while everything the library reports is in UTF-8 byte
offsets.  A `Subject` holds a line's characters and the byte offset at which each starts, the last
entry being the line's length in bytes, so that the two kinds of position convert both ways.  It
also keeps the running count of `"` characters (`quoteCountsOf`), which the quote-aware search
asks for at every match.
-/

namespace Highlight

/-- The number of `"` characters before each character index of `cs`, and before its end. -/
def quoteCountsOf (cs : Array Char) : Array Nat :=
  cs.foldl (fun acc c => acc.push (acc.back?.getD 0 + if c == '"' then 1 else 0)) #[0]

/-- A line prepared for searching: its characters, the byte offset of each followed by the
length of the line in bytes, and the running count of `"` characters. -/
structure Subject where
  chars : Array Char
  offsets : Array Nat
  quotes : Array Nat := quoteCountsOf chars
  quotes_eq : quotes = quoteCountsOf chars := by rfl

namespace Subject

def ofString (s : String) : Subject :=
  let (offs, total) := s.foldl (fun (acc : Array Nat × Nat) c => (acc.1.push acc.2, acc.2 + c.utf8Size))
    (#[], 0)
  { chars := s.toList.toArray, offsets := offs.push total }

def byteLength (s : Subject) : Nat := s.offsets.getD s.chars.size 0

def byteAt (s : Subject) (i : Nat) : Nat := s.offsets.getD i s.byteLength

/-- The index of the first character that starts at or after byte `b` (the number of characters
when there is none): binary search over the offsets. -/
def charIndex (s : Subject) (b : Nat) : Nat :=
  go 0 s.chars.size
where
  go (lo hi : Nat) : Nat :=
    if lo < hi then
      let mid := (lo + hi) / 2
      if s.offsets.getD mid 0 < b then go (mid + 1) hi else go lo mid
    else lo
  termination_by hi - lo

def slice? (s : Subject) (start stop : Nat) : Option String :=
  let i := s.charIndex start
  let j := s.charIndex stop
  if start ≤ stop && stop ≤ s.byteLength && s.byteAt i == start && s.byteAt j == stop then
    some (String.ofList (s.chars.extract i j).toList)
  else none

end Subject

end Highlight
