import Highlight.Unicode.Word

/-!
# Trimming

Names and extensions are compared after trimming white space, where white space is every
character with the Unicode `White_Space` property (the same set `\s` matches), and extensions are
stored without their leading dots.
-/

namespace Highlight

/-- Whether a character has the Unicode `White_Space` property. -/
def isWhite (c : Char) : Bool := Unicode.spaceSet.contains c.toNat

def trimStartWhite (s : String) : String := String.ofList (s.toList.dropWhile isWhite)

def trimWhite (s : String) : String :=
  String.ofList ((s.toList.dropWhile isWhite).reverse.dropWhile isWhite).reverse

def dropLeadingDots (s : String) : String := String.ofList (s.toList.dropWhile (· == '.'))

end Highlight
