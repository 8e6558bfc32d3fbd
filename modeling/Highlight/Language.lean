import Highlight.Unicode.Lower

/-!
# Languages

A document is highlighted in one language: one of the three built-in ones, a grammar registered at
run time (named by its index among them, below `2 ^ 16`), or none at all, which gives no spans.
The built-in languages are also known by aliases, matched after lower-casing the name.
-/

namespace Highlight

inductive Language where
  /-- XML-style markup. -/
  | markup
  /-- Brace and key-value configuration files. -/
  | config
  /-- The scripting language. -/
  | script
  /-- The grammar registered at run time with this index. -/
  | custom (index : Nat)
  /-- No grammar: lines get no spans. -/
  | unknown
  deriving DecidableEq, Repr, Inhabited

namespace Language

def customLimit : Nat := Nat.pow 2 16

/-- The built-in language or alias with this name, in any case. -/
def ofBuiltinName (name : String) : Option Language :=
  match Unicode.lowerText name with
  | "markup" | "xml" => some markup
  | "config" | "zml" | "scone" => some config
  | "script" | "lua" => some script
  | "unknown" | "plain" | "none" => some unknown
  | _ => none

end Language

end Highlight
