import Mathlib
import Highlight.Proofs.Reads
import Highlight.Proofs.NumberRule
import Highlight.Proofs.QuotedStrings
import Highlight.Proofs.ScriptOperators

/-!
# The rules of the configuration grammar

The configuration grammar has eleven rules and the block comments `/* … */`.  Each pattern is read
here as the expression it compiles to (`reading_*`), so that `Grammar.configGrammar_rules` lists
the grammar's rules as patterns with known expressions, and `Grammar.configGrammar_blockComment`
its comment delimiters.

What matters about most rules on a line is which characters they must read
(see `Highlight.Proofs.Reads`):

* the element rule `(\w+)\s*=?\s*[\{\[]` and the label rule `(\w+):(?:\s|$)` need a bracket and a
  colon, and neither reads a quote;
* the attribute rule `(\w+)\s*=` leads with a word character;
* the rules `#\w+`, `<<.*?>>`, `<--(?:\s|$)`, `[\{\}\[\]=:]`, `[@\$]\w+`, the comment rule
  `(?:;|//|#(?:\s|$)).*` and the comment opener lead with a character of their own.
-/

namespace Highlight

namespace Regex

/-- The expression of the element rule `(\w+)\s*=?\s*[\{\[]`. -/
def configElementExpr : Expr :=
  .cat (.capture 1 (.rep 1 none true (.set (shortClass true .word))))
    (.cat (.rep 0 none true (.set (shortClass true .space)))
      (.cat (.rep 0 (some 1) true (.set ⟨[(61, 61)]⟩))
        (.cat (.rep 0 none true (.set (shortClass true .space))) (.set ⟨[(91, 91), (123, 123)]⟩))))

/-- The expression of the attribute rule `(\w+)\s*=`. -/
def configAttributeExpr : Expr :=
  .cat (.capture 1 (.rep 1 none true (.set (shortClass true .word))))
    (.cat (.rep 0 none true (.set (shortClass true .space))) (.set ⟨[(61, 61)]⟩))

/-- The expression of the label rule `(\w+):(?:\s|$)`. -/
def configLabelExpr : Expr :=
  .cat (.capture 1 (.rep 1 none true (.set (shortClass true .word))))
    (.cat (.set ⟨[(58, 58)]⟩) (.alt (.set (shortClass true .space)) (.look .textEnd)))

/-- The expression of `#\w+`. -/
def hashWordExpr : Expr :=
  .cat (.set ⟨[(35, 35)]⟩) (.rep 1 none true (.set (shortClass true .word)))

/-- The class `.` reads: every character but the line feed. -/
def notNewline : CharClass := ⟨[(0, 9), (11, 55295), (57344, 1114111)]⟩

/-- The expression of `<<.*?>>`. -/
def doubleAngleExpr : Expr :=
  .cat (.set ⟨[(60, 60)]⟩) (.cat (.set ⟨[(60, 60)]⟩)
    (.cat (.rep 0 none false (.set notNewline)) (.cat (.set ⟨[(62, 62)]⟩) (.set ⟨[(62, 62)]⟩))))

/-- The expression of `<--(?:\s|$)`. -/
def arrowExpr : Expr :=
  .cat (.set ⟨[(60, 60)]⟩) (.cat (.set ⟨[(45, 45)]⟩)
    (.cat (.set ⟨[(45, 45)]⟩) (.alt (.set (shortClass true .space)) (.look .textEnd))))

/-- The expression of the operator rule `[\{\}\[\]=:]`. -/
def configOperatorExpr : Expr :=
  .set ⟨[(58, 58), (61, 61), (91, 91), (93, 93), (123, 123), (125, 125)]⟩

/-- The expression of `[@\$]\w+`. -/
def macroWordExpr : Expr :=
  .cat (.set ⟨[(36, 36), (64, 64)]⟩) (.rep 1 none true (.set (shortClass true .word)))

/-- The expression of the comment rule `(?:;|//|#(?:\s|$)).*`. -/
def configCommentExpr : Expr :=
  .cat (.alt (.set ⟨[(59, 59)]⟩) (.alt (.cat (.set ⟨[(47, 47)]⟩) (.set ⟨[(47, 47)]⟩))
      (.cat (.set ⟨[(35, 35)]⟩) (.alt (.set (shortClass true .space)) (.look .textEnd)))))
    (.rep 0 none true (.set notNewline))

/-- The expression of the comment opener `/\*`. -/
def slashStarExpr : Expr := .cat (.set ⟨[(47, 47)]⟩) (.set ⟨[(42, 42)]⟩)

/-- The expression of the comment closer `\*/`. -/
def starSlashExpr : Expr := .cat (.set ⟨[(42, 42)]⟩) (.set ⟨[(47, 47)]⟩)

/-! ## What the rules read -/

open CharClass

theorem configElementExpr_needs : configElementExpr.Needs (· ∈ ['[', '{']) := by
  simp only [configElementExpr, Expr.Needs]
  exact .inr (.inr (.inr (.inr fun ch h => mem_of_singles ['[', '{'] (by decide) (by decide) h)))

theorem configElementExpr_within : configElementExpr.Within (· ≠ '"') := by
  simp only [configElementExpr, Expr.Within]
  exact ⟨word_ne_quote, space_ne_quote, ne_quote_of_singles ['='] (by decide) (by decide) (by decide),
    space_ne_quote, ne_quote_of_singles ['[', '{'] (by decide) (by decide) (by decide)⟩

theorem configLabelExpr_needs : configLabelExpr.Needs (· ∈ [':']) := by
  simp only [configLabelExpr, Expr.Needs]
  exact .inr (.inl fun ch h => mem_of_singles [':'] (by decide) (by decide) h)

theorem configLabelExpr_within : configLabelExpr.Within (· ≠ '"') := by
  simp only [configLabelExpr, Expr.Within]
  exact ⟨word_ne_quote, ne_quote_of_singles [':'] (by decide) (by decide) (by decide),
    space_ne_quote, trivial⟩

theorem configAttributeExpr_leads :
    configAttributeExpr.Leads fun ch => searchRanges (shortClass true .word).ranges.toArray ch.toNat := by
  simp only [configAttributeExpr, Expr.Leads]
  exact ⟨Nat.one_pos, fun _ h => h⟩

theorem hashWordExpr_leads : hashWordExpr.Leads (· ∈ ['#']) := by
  simp only [hashWordExpr, Expr.Leads]
  exact fun ch h => mem_of_singles ['#'] (by decide) (by decide) h

theorem doubleAngleExpr_leads : doubleAngleExpr.Leads (· ∈ ['<']) := by
  simp only [doubleAngleExpr, Expr.Leads]
  exact fun ch h => mem_of_singles ['<'] (by decide) (by decide) h

theorem arrowExpr_leads : arrowExpr.Leads (· ∈ ['<']) := by
  simp only [arrowExpr, Expr.Leads]
  exact fun ch h => mem_of_singles ['<'] (by decide) (by decide) h

theorem configOperatorExpr_leads : configOperatorExpr.Leads (· ∈ [':', '=', '[', ']', '{', '}']) := by
  simp only [configOperatorExpr, Expr.Leads]
  exact fun ch h => mem_of_singles [':', '=', '[', ']', '{', '}'] (by decide) (by decide) h

theorem macroWordExpr_leads : macroWordExpr.Leads (· ∈ ['$', '@']) := by
  simp only [macroWordExpr, Expr.Leads]
  exact fun ch h => mem_of_singles ['$', '@'] (by decide) (by decide) h

theorem configCommentExpr_leads : configCommentExpr.Leads (· ∈ [';', '/', '#']) := by
  simp only [configCommentExpr, Expr.Leads]
  refine ⟨fun ch h => ?_, fun ch h => ?_, fun ch h => ?_⟩
  · obtain rfl := List.mem_singleton.1 (mem_of_singles [';'] (by decide) (by decide) h)
    decide
  · obtain rfl := List.mem_singleton.1 (mem_of_singles ['/'] (by decide) (by decide) h)
    decide
  · obtain rfl := List.mem_singleton.1 (mem_of_singles ['#'] (by decide) (by decide) h)
    decide

theorem slashStarExpr_leads : slashStarExpr.Leads (· ∈ ['/']) := by
  simp only [slashStarExpr, Expr.Leads]
  exact fun ch h => mem_of_singles ['/'] (by decide) (by decide) h

theorem configAttributeProgram_targets : configAttributeExpr.compile.Targets := by decide

theorem configAttributeProgram_ranked :
    configAttributeExpr.compile.Ranked configAttributeExpr.compile.quietRank := by decide

theorem configOperatorProgram_targets : configOperatorExpr.compile.Targets := by decide

theorem configOperatorProgram_ranked : configOperatorExpr.compile.Ranked id := by decide

end Regex

namespace Pattern

open Regex

/-- The element rule's pattern, styling group `1`. -/
def configElement : Pattern :=
  ⟨"(\\w+)\\s*=?\\s*[\\\x7b\\[]", 1, configElementExpr, configElementExpr.compile⟩

/-- The attribute rule's pattern, styling group `1`. -/
def configAttribute : Pattern := ⟨"(\\w+)\\s*=", 1, configAttributeExpr, configAttributeExpr.compile⟩

/-- The label rule's pattern, styling group `1`. -/
def configLabel : Pattern :=
  ⟨"(\\w+):(?:\\s|$)", 1, configLabelExpr, configLabelExpr.compile⟩

def hashWord : Pattern := ⟨"#\\w+", 0, hashWordExpr, hashWordExpr.compile⟩

def doubleAngle : Pattern := ⟨"<<.*?>>", 0, doubleAngleExpr, doubleAngleExpr.compile⟩

def arrow : Pattern := ⟨"<--(?:\\s|$)", 0, arrowExpr, arrowExpr.compile⟩

def configOperator : Pattern :=
  ⟨"[\\\x7b\\\x7d\\[\\]=:]", 0, configOperatorExpr, configOperatorExpr.compile⟩

def macroWord : Pattern := ⟨"[@\\$]\\w+", 0, macroWordExpr, macroWordExpr.compile⟩

def configComment : Pattern :=
  ⟨"(?:;|//|#(?:\\s|$)).*", 0, configCommentExpr, configCommentExpr.compile⟩

def slashStar : Pattern := ⟨"/\\*", 0, slashStarExpr, slashStarExpr.compile⟩

def starSlash : Pattern := ⟨"\\*/", 0, starSlashExpr, starSlashExpr.compile⟩

/-! ## Readings -/

set_option maxRecDepth 4000 in
theorem withGroup_configElement : withGroup "(\\w+)\\s*=?\\s*[\\\x7b\\[]" 1 = .ok configElement :=
  withGroup_of_reading rfl (by cbv) (by decide) (by decide) (by decide)

set_option maxRecDepth 4000 in
theorem withGroup_configAttribute : withGroup "(\\w+)\\s*=" 1 = .ok configAttribute :=
  withGroup_of_reading rfl (by cbv) (by decide) (by decide) (by decide)

set_option maxRecDepth 4000 in
theorem withGroup_configLabel : withGroup "(\\w+):(?:\\s|$)" 1 = .ok configLabel :=
  withGroup_of_reading rfl (by cbv) (by decide) (by decide) (by decide)

set_option maxRecDepth 4000 in
theorem withGroup_hashWord : withGroup "#\\w+" 0 = .ok hashWord :=
  withGroup_of_reading rfl (by cbv) (by decide) (by decide) (by decide)

theorem withGroup_doubleAngle : withGroup "<<.*?>>" 0 = .ok doubleAngle :=
  withGroup_of_reading rfl (by cbv) (by decide) (by decide) (by decide)

theorem withGroup_arrow : withGroup "<--(?:\\s|$)" 0 = .ok arrow :=
  withGroup_of_reading rfl (by cbv) (by decide) (by decide) (by decide)

theorem withGroup_configOperator : withGroup "[\\\x7b\\\x7d\\[\\]=:]" 0 = .ok configOperator :=
  withGroup_of_reading rfl (by cbv) (by decide) (by decide) (by decide)

set_option maxRecDepth 4000 in
theorem withGroup_macroWord : withGroup "[@\\$]\\w+" 0 = .ok macroWord :=
  withGroup_of_reading rfl (by cbv) (by decide) (by decide) (by decide)

set_option maxRecDepth 4000 in
theorem withGroup_configComment : withGroup "(?:;|//|#(?:\\s|$)).*" 0 = .ok configComment :=
  withGroup_of_reading rfl (by cbv) (by decide) (by decide) (by decide)

theorem withGroup_slashStar : withGroup "/\\*" 0 = .ok slashStar :=
  withGroup_of_reading rfl (by cbv) (by decide) (by decide) (by decide)

theorem withGroup_starSlash : withGroup "\\*/" 0 = .ok starSlash :=
  withGroup_of_reading rfl (by cbv) (by decide) (by decide) (by decide)

theorem compiled_configElement : configElement.Compiled := compiled_of_withGroup withGroup_configElement

theorem compiled_configAttribute : configAttribute.Compiled :=
  compiled_of_withGroup withGroup_configAttribute

theorem compiled_configLabel : configLabel.Compiled := compiled_of_withGroup withGroup_configLabel

theorem compiled_hashWord : hashWord.Compiled := compiled_of_withGroup withGroup_hashWord

theorem compiled_doubleAngle : doubleAngle.Compiled := compiled_of_withGroup withGroup_doubleAngle

theorem compiled_arrow : arrow.Compiled := compiled_of_withGroup withGroup_arrow

theorem compiled_configOperator : configOperator.Compiled :=
  compiled_of_withGroup withGroup_configOperator

theorem compiled_macroWord : macroWord.Compiled := compiled_of_withGroup withGroup_macroWord

theorem compiled_configComment : configComment.Compiled :=
  compiled_of_withGroup withGroup_configComment

theorem compiled_slashStar : slashStar.Compiled := compiled_of_withGroup withGroup_slashStar

end Pattern

namespace Grammar

open Pattern

theorem configGrammar_rules : configGrammar.rules = [⟨configElement, .element⟩,
    ⟨configAttribute, .attributeName⟩, ⟨configLabel, .attributeName⟩, ⟨Pattern.quoted, .value⟩,
    ⟨hashWord, .special⟩, ⟨doubleAngle, .special⟩, ⟨arrow, .macroUse⟩,
    ⟨configOperator, .operator⟩, ⟨number, .number⟩, ⟨macroWord, .macroUse⟩,
    ⟨configComment, .comment⟩] := by
  simp only [configGrammar, rules_withBlockComment, rules_withRules]
  rw [show (["zml", "scone", "cfg", "conf"].foldl addExtension (named "config")).rules = [] from rfl]
  simp [withGroup_configElement, withGroup_configAttribute, withGroup_configLabel, withGroup_quoted,
    withGroup_hashWord, withGroup_doubleAngle, withGroup_arrow, withGroup_configOperator,
    withGroup_number, withGroup_macroWord, withGroup_configComment, Except.toOption]

theorem configGrammar_blockComment : configGrammar.blockComment = some ⟨slashStar, starSlash⟩ := by
  simp only [configGrammar, withBlockComment, setBlockComment, Pattern.new, withGroup_slashStar,
    withGroup_starSlash]
  rfl

end Grammar

end Highlight
