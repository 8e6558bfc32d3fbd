import Highlight.Pattern
import Highlight.Style
import Highlight.Text.Trim
import Highlight.Unicode.Lower

/-!
# Grammars

A grammar is what the highlighter knows of one language: its name, the file extensions it claims,
an ordered list of rules, and optionally a pair of patterns that open and close comments that may
span lines.  A rule pairs a pattern with the style given to the part of each match the pattern
styles; a rule added later paints over the ones before it.

A grammar is built step by step.  Adding a rule or the comment delimiters compiles their patterns
and fails with the first pattern that cannot be used, leaving the grammar as it was.  Extensions
are stored without their leading dots and in lower case.  `Grammar.validate` says whether a
grammar may be registered: its name is not blank and it has a rule.
-/

namespace Highlight

structure Rule where
  pattern : Pattern
  style : Style

structure BlockComment where
  start : Pattern
  stop : Pattern

structure Grammar where
  name : String
  extensions : List String := []
  rules : List Rule := []
  blockComment : Option BlockComment := none

namespace Grammar

def named (name : String) : Grammar := { name }

/-- An extension as a grammar stores it: no leading dots, lower case. -/
def storedExtension (ext : String) : String := Unicode.lowerText (dropLeadingDots ext)

def addExtension (g : Grammar) (ext : String) : Grammar :=
  { g with extensions := g.extensions ++ [storedExtension ext] }

def addRule (g : Grammar) (r : Rule) : Grammar := { g with rules := g.rules ++ [r] }

def groupRule (g : Grammar) (source : String) (group : Nat) (style : Style) :
    Except Error Grammar := do
  let p ← Pattern.withGroup source group
  pure (g.addRule ⟨p, style⟩)

def rule (g : Grammar) (source : String) (style : Style) : Except Error Grammar :=
  g.groupRule source 0 style

/-- Compiles the opening pattern, then the closing one, and sets them as the block-comment
delimiters. -/
def setBlockComment (g : Grammar) (start stop : String) : Except Error Grammar := do
  let a ← Pattern.new start
  let b ← Pattern.new stop
  pure { g with blockComment := some ⟨a, b⟩ }

/-- Whether the grammar can be registered: a name that is not blank, and at least one rule. -/
def validate (g : Grammar) : Except Error Unit :=
  if (trimWhite g.name).isEmpty then .error (.grammar .noName)
  else if g.rules.isEmpty then .error (.grammar (.noRules g.name))
  else .ok ()

@[simp] theorem extensions_addExtension (g : Grammar) (ext : String) :
    (g.addExtension ext).extensions = g.extensions ++ [storedExtension ext] := rfl

@[simp] theorem rules_addRule (g : Grammar) (r : Rule) : (g.addRule r).rules = g.rules ++ [r] := rfl

@[simp] theorem name_addExtension (g : Grammar) (ext : String) :
    (g.addExtension ext).name = g.name := rfl

@[simp] theorem name_addRule (g : Grammar) (r : Rule) : (g.addRule r).name = g.name := rfl

theorem validate_eq_ok_iff (g : Grammar) :
    g.validate = .ok () ↔ (trimWhite g.name).isEmpty = false ∧ g.rules.isEmpty = false := by
  unfold validate
  by_cases hn : (trimWhite g.name).isEmpty <;> by_cases hr : g.rules.isEmpty <;> simp [hn, hr]

end Grammar

end Highlight
