import Highlight.Regex.Parse
import Highlight.Regex.Search
import Highlight.Regex.Footprint
import Highlight.Text.Subject
import Highlight.Error

/-!
# Patterns

A pattern is a regular expression that never matches the empty text, with the capture group whose
part of each match gets styled (group `0` is the whole match).  `Pattern.withGroup` refuses, in
this order: an empty text, a text that does not parse, an expression whose least match length is
`0`, automata beyond the size limit (`Tree.fitsAutomata`), and a group the expression does not
have.

`Pattern.findAt` finds the first match that starts at or after a byte offset; anchors and word
boundaries still see the whole line, so `^` matches only at offset `0`.  A `Match` gives the byte
range of the whole match, which decides where a search resumes, and the range of the styled group,
`none` when that group took no part in the match.
-/

namespace Highlight

open Highlight.Regex

structure Pattern where
  source : String
  group : Nat
  regex : Expr
  program : Program

/-- One occurrence of a pattern in a line: byte ranges, end exclusive. -/
structure Match where
  whole : Nat × Nat
  styled : Option (Nat × Nat)
  deriving Repr, DecidableEq, Inhabited

namespace Pattern

/-- Compiles a pattern that styles capture group `group`. -/
def withGroup (source : String) (group : Nat) : Except Error Pattern :=
  if source.isEmpty then .error (.grammar .emptyPattern)
  else
    match parsePattern source with
    | .error e => .error (.grammar (.badPattern source e))
    | .ok p =>
      let r := p.expr
      if p.tree.minLen == some 0 then .error (.grammar (.matchesEmpty source))
      else if !p.tree.fitsAutomata then .error (.grammar (.patternTooLarge source))
      else if group ≥ r.groupCount then .error (.grammar (.noGroup source group))
      else .ok ⟨source, group, r, r.compile⟩

def new (source : String) : Except Error Pattern := withGroup source 0

/-- The first match in the prepared line `s` that starts at or after byte `start`. -/
def findIn (p : Pattern) (s : Subject) (start : Nat) : Option Match :=
  if s.byteLength < start then none
  else
    match p.program.search s.chars (s.charIndex start) with
    | none => none
    | some slots =>
      match slots.getD 0 none, slots.getD 1 none with
      | some a, some b =>
        let styled := match slots.getD (2 * p.group) none, slots.getD (2 * p.group + 1) none with
          | some x, some y => some (s.byteAt x, s.byteAt y)
          | _, _ => none
        some ⟨(s.byteAt a, s.byteAt b), styled⟩
      | _, _ => none

def findAt (p : Pattern) (text : String) (start : Nat) : Option Match :=
  p.findIn (Subject.ofString text) start

end Pattern

end Highlight
