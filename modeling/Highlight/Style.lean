/-!
# Style tags and their terminal look

A rule assigns one of nine style tags to what it matches.  Each tag has a name (matched without
regard to ASCII case when a grammar is read), and a default look on a terminal: a colour of the
sixteen-colour palette, bold or not, italic or not.
-/

namespace Highlight

inductive Style where
  | operator | element | attributeName | value | comment | number | special | macroUse | keyword
  deriving DecidableEq, Repr, Inhabited

inductive Colour where
  | default | black | red | green | yellow | blue | magenta | cyan | white
  | brightBlack | brightRed | brightGreen | brightYellow | brightBlue | brightMagenta | brightCyan
  | brightWhite
  deriving DecidableEq, Repr, Inhabited

structure Appearance where
  fg : Colour := .default
  bold : Bool := false
  italic : Bool := false
  deriving DecidableEq, Repr, Inhabited

namespace Colour

def name : Colour → String
  | default => "Default" | black => "Black" | red => "Red" | green => "Green"
  | yellow => "Yellow" | blue => "Blue" | magenta => "Magenta" | cyan => "Cyan"
  | white => "White" | brightBlack => "BrightBlack" | brightRed => "BrightRed"
  | brightGreen => "BrightGreen" | brightYellow => "BrightYellow" | brightBlue => "BrightBlue"
  | brightMagenta => "BrightMagenta" | brightCyan => "BrightCyan" | brightWhite => "BrightWhite"

/-- The index of a colour in the terminal's 256-colour table: the dark colours are `0` to `7`
and the bright ones `8` to `15`; the terminal's own colour has none. -/
def paletteIndex : Colour → Option Nat
  | default => none | black => some 0 | red => some 1 | green => some 2 | yellow => some 3
  | blue => some 4 | magenta => some 5 | cyan => some 6 | white => some 7
  | brightBlack => some 8 | brightRed => some 9 | brightGreen => some 10
  | brightYellow => some 11 | brightBlue => some 12 | brightMagenta => some 13
  | brightCyan => some 14 | brightWhite => some 15

end Colour

def Appearance.isDefault (l : Appearance) : Bool := l == {}

namespace Style

def all : List Style :=
  [operator, element, attributeName, value, comment, number, special, macroUse, keyword]

def name : Style → String
  | operator => "Operator" | element => "Element" | attributeName => "Attribute"
  | value => "Value" | comment => "Comment" | number => "Number" | special => "Special"
  | macroUse => "Macro" | keyword => "Keyword"

/-- The tag with the given name, ASCII case ignored. -/
def ofName? (s : String) : Option Style :=
  all.find? fun t => t.name.toLower == s.toLower

def appearance : Style → Appearance
  | operator => { fg := .brightBlack }
  | element => { fg := .blue, bold := true }
  | attributeName => { fg := .blue }
  | value => { fg := .red }
  | comment => { fg := .green, italic := true }
  | number => { fg := .cyan }
  | special => { fg := .brightBlue, bold := true, italic := true }
  | macroUse => { fg := .magenta }
  | keyword => { fg := .brightMagenta, bold := true }

end Style

end Highlight
