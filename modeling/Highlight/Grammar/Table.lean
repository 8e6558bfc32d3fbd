import Highlight.Grammar.Basic
import Highlight.Toml.Value

/-!
# Grammars written as TOML tables

A grammar can be given as a table, in the configuration file under `[[grammar]]`:

    name = "ini"
    extensions = ["ini"]
    comment-start = "/\\*"
    comment-end = "\\*/"
    [[rule]]
    pattern = "(\\w+)\\s*="
    style = "Attribute"
    group = 1

`Grammar.ofTable` checks, in this order: a `name` string; `extensions`, when given, an array of
strings; the comment delimiters, both or neither (a value that is no string counts as absent),
compiled opening first; then each rule of `rule` (no array counts as none): a table with a
`pattern` string, a `style` string naming a style in any ASCII case, and an optional `group`, a
non-negative integer.  Last the grammar must pass `Grammar.validate`.
-/

namespace Highlight

open Highlight.Toml

namespace Grammar

/-- Reads the group of a rule table: `0` when absent. -/
def ruleGroup (name : String) (rule : Table) : Except Error Nat :=
  match rule.get? "group" with
  | none => .ok 0
  | some v =>
    match v.asInteger? with
    | some (.ofNat g) => .ok g
    | _ => .error (.grammar (.badGroup name))

def addRuleTable (name : String) (g : Grammar) (v : Value) : Except Error Grammar := do
  let some rule := v.asTable? | .error (.grammar (.ruleNotTable name))
  let some pattern := (rule.get? "pattern").bind Value.asString?
    | .error (.grammar (.ruleWithoutPattern name))
  let some styleName := (rule.get? "style").bind Value.asString?
    | .error (.grammar (.ruleWithoutStyle name))
  let some style := Style.ofName? styleName | .error (.grammar (.unknownStyle name styleName))
  let group ← ruleGroup name rule
  g.groupRule pattern group style

def addExtensionValues (name : String) (g : Grammar) (items : List Value) :
    Except Error Grammar :=
  items.foldlM (fun g v => match v.asString? with
    | some ext => .ok (g.addExtension ext)
    | none => .error (.grammar (.extensionNotString name))) g

def ofTable (t : Table) : Except Error Grammar := do
  let some name := (t.get? "name").bind Value.asString? | .error (.grammar .missingName)
  let mut g := named name
  match t.get? "extensions" with
  | none => pure ()
  | some v =>
    let some items := v.asArray? | .error (.grammar (.extensionsNotArray name))
    g ← addExtensionValues name g items
  match (t.get? "comment-start").bind Value.asString?, (t.get? "comment-end").bind Value.asString? with
  | some start, some stop => g ← g.setBlockComment start stop
  | none, none => pure ()
  | _, _ => .error (.grammar (.unpairedComment name))
  let rules := ((t.get? "rule").bind Value.asArray?).getD []
  g ← rules.foldlM (addRuleTable name) g
  g.validate
  pure g

end Grammar

end Highlight
