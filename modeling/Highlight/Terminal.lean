import Highlight.Span
import Highlight.LineState
import Highlight.Text.Debug
import Highlight.Unicode.Width

/-!
# Terminal output

A highlighted line is painted as runs of characters of the same style.  A run without style, or
whose style looks like plain text, is written as it is; any other run is written after the
escape sequences that set its colour (`ESC[38;5;Nm` with the colour's palette index, `ESC[39m`
for the terminal's own colour), bold (`ESC[1m`) and italic (`ESC[3m`), and followed by `ESC[0m`.

With a width, a line is cut before the first character that would make it wider; a character is
as wide as its East Asian width says, and a control character counts as one column.

`dumpLine` writes a line with its number and end state, and then each span: its style, its byte
range and its text.
-/

namespace Highlight

def sgr (code : String) : String := "\x1b[" ++ code ++ "m"

def Colour.foreground (c : Colour) : String :=
  match c.paletteIndex with
  | some n => "38;5;" ++ toString n
  | none => "39"

def paintRun (text : String) (style : Option Style) : String :=
  let a : Appearance := (style.map Style.appearance).getD {}
  if a.isDefault then text
  else
    sgr a.fg.foreground ++ (if a.bold then sgr "1" else "") ++ (if a.italic then sgr "3" else "") ++
      text ++ sgr "0"

/-- The display width of a character, one column for a control character. -/
def columns (c : Char) : Nat := (Unicode.charWidth? c).getD 1

/-- Paints the characters `cs`, the first at byte `pos`, after `used` columns, with the current run
`run` in style `st` not yet written and `out` written. -/
def paintChars (styles : Array (Option Style)) (limit : Option Nat) :
    List Char → Nat → Nat → Option Style → String → String → String
  | [], _, _, st, run, out => if run.isEmpty then out else out ++ paintRun run st
  | c :: cs, pos, used, st, run, out =>
    let w := columns c
    if (match limit with | some m => decide (used + w > m) | none => false) then
      if run.isEmpty then out else out ++ paintRun run st
    else
      let s := styles.getD pos none
      if s != st && !run.isEmpty then
        paintChars styles limit cs (pos + c.utf8Size) (used + w) s c.toString (out ++ paintRun run st)
      else paintChars styles limit cs (pos + c.utf8Size) (used + w) s (run.push c) out

/-- A line painted with its spans, cut at `limit` columns, and its line end. -/
def paintLine (limit : Option Nat) (line : String) (spans : List Span) : String :=
  paintChars (flatten line spans) limit line.toList 0 0 none "" "" ++ "\n"

def padLeft (s : String) (n : Nat) : String := String.ofList (List.replicate (n - s.length) ' ') ++ s

def padRight (s : String) (n : Nat) : String := s ++ String.ofList (List.replicate (n - s.length) ' ')

def LineState.name : LineState → String
  | .code => "code"
  | .comment => "comment"

def dumpLine (number : Nat) (line : String) (spans : List Span) (state : LineState) : String :=
  padLeft (toString number) 4 ++ " [" ++ state.name ++ "] " ++ quoted line ++ "\n" ++
    String.join (spans.map fun sp =>
      "       " ++ padRight sp.style.name 9 ++ " " ++ padLeft (toString sp.start) 3 ++ ".." ++
        padRight (toString sp.stop) 3 ++ " " ++ quoted ((sp.text? line).getD "") ++ "\n")

end Highlight
