import Highlight.Regex.CharClass

/-!
# Byte sequences of a range of characters

An automaton that reads UTF-8 text matches a range of scalar values through byte-range sequences:
a sequence is a list of inclusive byte ranges, one for each byte of an encoding, and a text of that
many bytes is one of the range's characters exactly when each of its bytes lies in its range.

`byteSequences lo hi` cuts `[lo, hi]` into such sequences, in increasing order of code point.  It
takes the surrogates out, cuts at the greatest code point of each encoding length, and then at the
points where a continuation byte would wrap, so that in every piece the encodings have one length
and their bytes vary independently; the piece is then the ranges between the bytes of its first and
last member.
-/

namespace Highlight.Regex

def utf8Encode (c : Nat) : List Nat :=
  if c < 0x80 then [c]
  else if c < 0x800 then [0xC0 + c / 64, 0x80 + c % 64]
  else if c < 0x10000 then [0xE0 + c / 4096, 0x80 + c / 64 % 64, 0x80 + c % 64]
  else [0xF0 + c / 262144, 0x80 + c / 4096 % 64, 0x80 + c / 64 % 64, 0x80 + c % 64]

abbrev ByteSeq := List (Nat × Nat)

/-- The first point below `hi` at which `[lo, hi]` must be cut so that a continuation byte does not
wrap: for blocks of `64`, `4096` and `262144` code points in turn, a range across two blocks is cut
after the block where it starts, when it starts inside one, or else before the block where it ends,
when it ends inside one. -/
def wrapCut (lo hi : Nat) : List Nat → Option Nat
  | [] => none
  | w :: ws =>
    if lo / w != hi / w then
      if lo % w != 0 then some (lo - lo % w + w - 1)
      else if hi % w != w - 1 then some (hi - hi % w - 1)
      else wrapCut lo hi ws
    else wrapCut lo hi ws

def byteSequencesUpTo : Nat → Nat → Nat → List ByteSeq
  | 0, _, _ => []
  | fuel + 1, lo, hi =>
    if lo < 0xE000 ∧ 0xD7FF < hi then
      byteSequencesUpTo fuel lo 0xD7FF ++ byteSequencesUpTo fuel 0xE000 hi
    else if hi < lo then []
    else
      match [0x7F, 0x7FF, 0xFFFF].find? (fun m => decide (lo ≤ m ∧ m < hi)) with
      | some m => byteSequencesUpTo fuel lo m ++ byteSequencesUpTo fuel (m + 1) hi
      | none =>
        if hi ≤ 0x7F then [[(lo, hi)]]
        else
          match wrapCut lo hi [64, 4096, 262144] with
          | some c => byteSequencesUpTo fuel lo c ++ byteSequencesUpTo fuel (c + 1) hi
          | none => [List.zip (utf8Encode lo) (utf8Encode hi)]

/-- The byte-range sequences of the scalar values in `[lo, hi]`, in increasing order.  Cuts nest at
most ten deep (one at the surrogates, three at the encoding lengths, two for each block size), so
a bound of `32` never runs out. -/
def byteSequences (lo hi : Nat) : List ByteSeq := byteSequencesUpTo 32 lo hi

end Highlight.Regex
