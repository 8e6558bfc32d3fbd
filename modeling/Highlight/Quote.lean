import Highlight.Pattern

/-!
# Quote-aware search

A match that starts inside a double-quoted region of the line is skipped.  Inside means after an
odd number of `"` bytes; escapes and single quotes do not count.  A skipped candidate resumes the
search at its end, not at its start.

`Pattern.findNext` is the first match at or after a position that starts outside quotes;
`Pattern.quoteAwareMatches` lists the successive ones from the start of the line, each search
resuming at the end of the last match.  `Pattern.plainMatchesFrom` is the same succession with no
regard to quotes, of which the quote-aware matches are the ones that start outside quotes.  Both stop where a match would not move the search on,
which a pattern that never matches the empty text cannot do.
-/

namespace Highlight

def Subject.betweenQuotes (s : Subject) (i : Nat) : Bool :=
  (s.quotes.getD (s.charIndex (min i s.byteLength)) 0) % 2 == 1

def betweenQuotes (text : String) (i : Nat) : Bool :=
  ((text.toUTF8.toList.take i).filter (· == 34)).length % 2 == 1

namespace Pattern

/-- The first match at or after byte `start` of the line whose start lies outside quotes.  A
candidate inside quotes resumes the search at its end.  An empty candidate there ends where the
search began and would be found again at every retry, so the search would never end; it answers
`none` instead.  A pattern with a known least match length has no empty match and never meets
this guard. -/
def findNext (p : Pattern) (s : Subject) (start : Nat) : Option Match :=
  match p.findIn s start with
  | none => none
  | some m =>
    if !s.betweenQuotes m.whole.1 then some m
    else if _h : start < m.whole.2 ∧ m.whole.2 ≤ s.byteLength then p.findNext s m.whole.2
    else none
termination_by s.byteLength + 1 - start
decreasing_by omega

/-- The successive quote-aware matches from byte `start` on, each search resuming at the end of
the match before.  A match that does not end past `start` would be found again at every step, so
the list would never end; it is listed last instead. -/
def matchesFrom (p : Pattern) (s : Subject) (start : Nat) : List Match :=
  match p.findNext s start with
  | none => []
  | some m =>
    if _h : start < m.whole.2 ∧ m.whole.2 ≤ s.byteLength then m :: p.matchesFrom s m.whole.2
    else [m]
termination_by s.byteLength + 1 - start
decreasing_by omega

def quoteAwareMatches (p : Pattern) (s : Subject) : List Match := p.matchesFrom s 0

/-- The successive matches from byte `start` on with no regard to quotes, each search resuming
at the end of the match before: the sequence that the quote-aware search filters.  As in
`matchesFrom`, a match that does not end past `start` is listed last, where the succession would
otherwise repeat it without end. -/
def plainMatchesFrom (p : Pattern) (s : Subject) (start : Nat) : List Match :=
  match p.findIn s start with
  | none => []
  | some m =>
    if _h : start < m.whole.2 ∧ m.whole.2 ≤ s.byteLength then m :: p.plainMatchesFrom s m.whole.2
    else [m]
termination_by s.byteLength + 1 - start
decreasing_by omega

end Pattern

end Highlight
