import Highlight.Unicode.Printable

/-!
# Quoting text for display

`--spans` shows each line and each span's text quoted, with the characters that would not show
plainly written as escapes: `\0 \t \r \n`, the backslash and the double quote with a backslash,
and every mark that extends a grapheme or character that is not printable (separators other than
the space, controls, format characters, surrogates, private-use and unassigned code points) as
`\u` followed by its code point in lower-case hexadecimal between braces.  Every other character,
the single quote included, stands for itself.
-/

namespace Highlight

def lowerHex (n : Nat) : String := String.ofList (Nat.toDigits 16 n)

/-- How a character is written inside a quoted text. -/
def quotedChar (c : Char) : String :=
  match c with
  | '\x00' => "\\0"
  | '\t' => "\\t"
  | '\r' => "\\r"
  | '\n' => "\\n"
  | '\\' => "\\\\"
  | '"' => "\\\""
  | _ =>
    if Unicode.isGraphemeExtend c || !Unicode.isPrintable c then
      "\\u\x7b" ++ lowerHex c.toNat ++ "\x7d"
    else c.toString

def quoted (s : String) : String :=
  "\"" ++ String.join (s.toList.map quotedChar) ++ "\""

end Highlight
