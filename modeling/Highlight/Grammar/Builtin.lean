import Highlight.Grammar.Basic
import Highlight.Language

/-!
# The built-in grammars

Three grammars come with the highlighter: markup (XML and friends), configuration files in the
brace and key-value style, and the scripting language.  Their patterns are fixed; a rule whose
pattern could not be compiled would simply be left out.

In markup, the element rule comes before the attribute rule so that an attribute name inside a
tag paints over the element colouring.  In the scripting language a lone `-` is styled through
group `1`, while a run of dashes matches the other branch, styles nothing and is skipped whole.
-/

namespace Highlight

namespace Grammar

def orKeep (g : Grammar) : Except Error Grammar → Grammar
  | .ok g' => g'
  | .error _ => g

/-- Adds a rule styling capture group `group`, leaving the grammar as it is, and nothing
reported, when the pattern cannot be compiled. -/
def withRule (g : Grammar) (source : String) (group : Nat) (style : Style) : Grammar :=
  g.orKeep (g.groupRule source group style)

/-- Sets the block-comment delimiters, leaving the grammar as it is, and nothing reported, when
they cannot be compiled. -/
def withBlockComment (g : Grammar) (start stop : String) : Grammar :=
  g.orKeep (g.setBlockComment start stop)

def withRules (g : Grammar) (rules : List (String × Nat × Style)) : Grammar :=
  rules.foldl (fun g (src, group, style) => g.withRule src group style) g

end Grammar

/-- A decimal number with an optional sign, fraction and exponent. -/
def numberPattern : String := "[-+]?\\b\\d+(?:\\.\\d+)?(?:[eE][-+]?\\d+)?\\b"

def markupName : String := "[A-Za-z_][\\w:.\\-]*"

def markupGrammar : Grammar :=
  let g := ["xml", "html", "htm", "svg", "xsd", "osim"].foldl Grammar.addExtension
    (Grammar.named "markup")
  let g := g.withRules [
    ("<\\s*[/?]?\\s*(" ++ markupName ++ ")", 1, .element),
    ("(" ++ markupName ++ ")\\s*=", 1, .attributeName),
    ("\"[^\"]*\"", 0, .value),
    ("<\\?|\\?>|</|/>|<|>", 0, .operator),
    (numberPattern, 0, .number),
    ("<!--.*?-->", 0, .comment)]
  g.withBlockComment "<!--" "-->"

def configGrammar : Grammar :=
  let g := ["zml", "scone", "cfg", "conf"].foldl Grammar.addExtension (Grammar.named "config")
  let g := g.withRules [
    ("(\\w+)\\s*=?\\s*[\\\x7b\\[]", 1, .element),
    ("(\\w+)\\s*=", 1, .attributeName),
    ("(\\w+):(?:\\s|$)", 1, .attributeName),
    ("\"[^\"]*\"", 0, .value),
    ("#\\w+", 0, .special),
    ("<<.*?>>", 0, .special),
    ("<--(?:\\s|$)", 0, .macroUse),
    ("[\\\x7b\\\x7d\\[\\]=:]", 0, .operator),
    (numberPattern, 0, .number),
    ("[@\\$]\\w+", 0, .macroUse),
    ("(?:;|//|#(?:\\s|$)).*", 0, .comment)]
  g.withBlockComment "/\\*" "\\*/"

def scriptKeywords : List String :=
  ["and", "break", "do", "else", "elseif", "end", "false", "for", "function", "goto", "if",
    "in", "local", "nil", "not", "or", "repeat", "return", "then", "true", "until", "while"]

def scriptGrammar : Grammar :=
  let g := (Grammar.named "script").addExtension "lua"
  let g := g.withRules [
    ("\\b(?:" ++ "|".intercalate scriptKeywords ++ ")\\b", 0, .keyword),
    ("\\b0[xX][0-9a-fA-F]+\\b|\\b\\d+(?:\\.\\d+)?(?:[eE][-+]?\\d+)?\\b", 0, .number),
    ("[+*/%^#&|~<>=()\x7b\x7d\\[\\];:,.]+", 0, .operator),
    ("(-)(?:[^-]|$)|--+", 1, .operator),
    ("\"[^\"]*\"", 0, .value),
    ("'[^']*'", 0, .value),
    ("\\[\\[.*?\\]\\]", 0, .value),
    ("--(?:\\[?$|\\[?[^\\[].*)", 0, .comment)]
  g.withBlockComment "--\\[\\[" "\\]\\]"

def builtinGrammars : List (Language × Grammar) :=
  [(.markup, markupGrammar), (.config, configGrammar), (.script, scriptGrammar)]

def Language.builtinGrammar : Language → Option Grammar
  | .markup => some markupGrammar
  | .config => some configGrammar
  | .script => some scriptGrammar
  | .custom _ | .unknown => none

end Highlight
