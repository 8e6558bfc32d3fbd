import Highlight.Grammar.Basic
import Highlight.Quote
import Highlight.LineState

/-!
# Highlighting a line

A line is highlighted in two layers.  First every rule, in order, adds a span for the styled part
of each of its quote-aware matches, left to right; a match whose styled group took no part or is
empty adds nothing.  Then, when the grammar has block comments, comment spans are laid over
everything.

The comment scan starts from the state the line begins in.  Inside a comment, the first closer
anywhere in the line ends it, and the line is a comment up to there; with no closer the whole line
is a comment and so is the next one.  Then, from the cursor on, each opener outside quotes starts
a comment that runs to the first closer after the opener, or to the end of the line, in which
case the next line starts inside a comment.  Closers are plain searches, since quotes mean
nothing inside a comment.  A grammar without block comments always ends a line in code.
-/

namespace Highlight

def commentSpan (start stop : Nat) : List Span :=
  if start < stop then [⟨start, stop, .comment⟩] else []

namespace BlockComment

/-- The comment spans of a line from byte `cursor` on, where the line is in code, and the state
it ends in.  Each round finds an opener, then a closer from the opener's end, and resumes after the
closer.  A closer that does not end past `cursor` would start the same round again without end;
the line ends in code after that comment instead. -/
def scanFrom (bc : BlockComment) (s : Subject) (cursor : Nat) : List Span × LineState :=
  match bc.start.findNext s cursor with
  | none => ([], .code)
  | some o =>
    match bc.stop.findIn s o.whole.2 with
    | none => (commentSpan o.whole.1 s.byteLength, .comment)
    | some c =>
      if _h : cursor < c.whole.2 ∧ c.whole.2 ≤ s.byteLength then
        let (rest, st) := bc.scanFrom s c.whole.2
        (commentSpan o.whole.1 c.whole.2 ++ rest, st)
      else (commentSpan o.whole.1 c.whole.2, .code)
termination_by s.byteLength + 1 - cursor
decreasing_by omega

def scan (bc : BlockComment) (s : Subject) : LineState → List Span × LineState
  | .code => bc.scanFrom s 0
  | .comment =>
    match bc.stop.findIn s 0 with
    | none => (commentSpan 0 s.byteLength, .comment)
    | some c =>
      let (rest, st) := bc.scanFrom s c.whole.2
      (commentSpan 0 c.whole.2 ++ rest, st)

end BlockComment

def Rule.styledSpan (r : Rule) (m : Match) : Option Span :=
  match m.styled with
  | some (a, b) => if a < b then some ⟨a, b, r.style⟩ else none
  | none => none

/-- The spans one rule gives a line: the styled part of each quote-aware match, left to right. -/
def Rule.spans (r : Rule) (s : Subject) : List Span :=
  (r.pattern.quoteAwareMatches s).filterMap r.styledSpan

namespace Grammar

def ruleSpans (g : Grammar) (s : Subject) : List Span :=
  g.rules.flatMap fun r => r.spans s

/-- Highlights a line that starts in state `state`: its spans in painting order and the state
the next line starts in. -/
def tokenizeLine (g : Grammar) (text : String) (state : LineState) : LineResult :=
  let s := Subject.ofString text
  let spans := g.ruleSpans s
  match g.blockComment with
  | none => ⟨spans, .code⟩
  | some bc =>
    let (comments, st) := bc.scan s state
    ⟨spans ++ comments, st⟩

def tokenizeLines (g : Grammar) (lines : List String) (state : LineState) : List LineResult :=
  threadLines g.tokenizeLine lines state

end Grammar

end Highlight
