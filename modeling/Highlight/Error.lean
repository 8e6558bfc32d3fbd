import Highlight.Regex.Escape

/-!
# Errors

Everything that can go wrong before a line is highlighted: a grammar or one of its patterns
cannot be used (`GrammarError`), the user configuration has a value of the wrong kind or names an
unknown language (`ConfigError`), a TOML text does not parse, a file cannot be read, or the
command line is wrong.  Highlighting a line never fails.

`Error.message` is the one place where the wording lives.
-/

namespace Highlight

open Highlight.Regex

/-- Why a grammar, one of its rules or one of its patterns cannot be used. -/
inductive GrammarError where
  /-- A pattern with no text. -/
  | emptyPattern
  /-- A pattern that is no regular expression of the dialect. -/
  | badPattern (pattern : String) (cause : SyntaxError)
  /-- A pattern that compiles to a program beyond the size limit. -/
  | patternTooLarge (pattern : String)
  /-- A pattern that can match the empty text. -/
  | matchesEmpty (pattern : String)
  /-- A rule styles a capture group that the pattern does not have. -/
  | noGroup (pattern : String) (group : Nat)
  /-- A grammar whose name is blank. -/
  | noName
  /-- A grammar without rules. -/
  | noRules (name : String)
  /-- A grammar table without a `name` string. -/
  | missingName
  /-- A grammar table whose `extensions` is no array. -/
  | extensionsNotArray (name : String)
  /-- A grammar table with an extension that is no string. -/
  | extensionNotString (name : String)
  /-- A grammar table with only one of the two block-comment delimiters. -/
  | unpairedComment (name : String)
  /-- A grammar table with a rule that is no table. -/
  | ruleNotTable (name : String)
  /-- A rule without a `pattern` string. -/
  | ruleWithoutPattern (name : String)
  /-- A rule without a `style` string. -/
  | ruleWithoutStyle (name : String)
  /-- A rule whose style names no style tag. -/
  | unknownStyle (name style : String)
  /-- A rule whose group is no non-negative integer. -/
  | badGroup (name : String)
  /-- A grammar named like a built-in language. -/
  | reservedName (name : String)
  /-- No room for another registered grammar. -/
  | tooManyGrammars
  deriving Repr, Inhabited

inductive ConfigError where
  | defaultNotString
  | extensionsNotTable
  | extensionNotName (ext : String)
  | grammarsNotTables
  | unknownLanguage (lang ext : String)
  | unknownDefault (lang : String)
  deriving Repr, Inhabited

inductive Error where
  | grammar (e : GrammarError)
  | config (e : ConfigError)
  /-- A TOML text that does not parse. -/
  | toml
  /-- A file that cannot be read, and the reason the system gives. -/
  | io (reason : String)
  /-- A wrong command line, or a language asked for on it that no one knows. -/
  | cli (text : String)
  deriving Repr, Inhabited

def GrammarError.message : GrammarError → String
  | .emptyPattern => "empty pattern"
  | .badPattern p _ => s!"pattern `{p}`: regex parse error"
  | .patternTooLarge p => s!"pattern `{p}`: compiled regex exceeds size limit"
  | .matchesEmpty p => s!"pattern `{p}` can match the empty string"
  | .noGroup p g => s!"pattern `{p}` has no capture group {g}"
  | .noName => "grammar has no name"
  | .noRules n => s!"grammar `{n}` has no rules"
  | .missingName => "grammar is missing a `name` string"
  | .extensionsNotArray n => s!"`{n}`: `extensions` must be an array"
  | .extensionNotString n => s!"`{n}`: extensions must be strings"
  | .unpairedComment n => s!"`{n}`: comment-start and comment-end must be given together"
  | .ruleNotTable n => s!"`{n}`: each rule must be a table"
  | .ruleWithoutPattern n => s!"`{n}`: rule is missing `pattern`"
  | .ruleWithoutStyle n => s!"`{n}`: rule is missing `style`"
  | .unknownStyle n s => s!"`{n}`: unknown style `{s}`"
  | .badGroup n => s!"`{n}`: bad rule group"
  | .reservedName n => s!"`{n}` is the name of a built-in language"
  | .tooManyGrammars => "too many custom grammars"

def ConfigError.message : ConfigError → String
  | .defaultNotString => "`default` must be a string"
  | .extensionsNotTable => "`extensions` must be a table"
  | .extensionNotName e => s!"extension `{e}` must map to a language name"
  | .grammarsNotTables => "`grammar` must be an array of tables"
  | .unknownLanguage l e => s!"unknown language `{l}` for `{e}`"
  | .unknownDefault l => s!"unknown default language `{l}`"

/-- The text of an error, with the prefix that names its kind. -/
def Error.message : Error → String
  | .grammar e => "invalid grammar: " ++ e.message
  | .config e => "configuration error: " ++ e.message
  | .toml => "TOML parse error"
  | .io reason => "I/O error: " ++ reason
  | .cli t => t

def Error.missingFile : Error := .io "No such file or directory (os error 2)"

end Highlight
