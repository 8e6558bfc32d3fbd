import Mathlib
import Highlight.Proofs.ConfigRules

/-!
# The rules of the markup grammar

The markup grammar has six rules and the comments `<!-- … -->`.  Each pattern is read here as
the expression it compiles to (`withGroup_*`), so that `Grammar.markupGrammar_rules` lists the
grammar's rules as patterns with known expressions, and `Grammar.markupGrammar_blockComment` its
comment delimiters.

A markup name starts with a letter or `_` (`nameStartClass`) and goes on with word characters,
`:`, `.` and `-` (`markupNameClass`).  Below code point `128` the two classes hold what
`isNameStart` admits, and the name characters with `:`, `.` and `-`
(`CharClass.searchRanges_nameStart`, `CharClass.searchRanges_markupName_ascii`).

What matters about the rules on a line is which characters they read first and which they can
read at all (see `Highlight.Proofs.Reads`):

* the element rule `<\s*[/?]?\s*(NAME)` and the comment rule `<!--.*?-->` lead with `<`;
* the attribute rule `(NAME)\s*=` leads with a character that starts a name, and reads no quote;
* the operator rule `<\?|\?>|</|/>|<|>` leads with `<`, `?`, `/` or `>`, and reads no quote.
-/

namespace Highlight

namespace Regex

/-- The class `[A-Za-z_]` that a markup name starts with. -/
def nameStartClass : CharClass := ⟨[(65, 90), (95, 95), (97, 122)]⟩

/-- The class `[\w:.\-]` of the later characters of a markup name: the word class with `-`, `.`
and `:`. -/
def markupNameClass : CharClass := ⟨[(45, 46), (48, 58)] ++ (shortClass true .word).ranges.drop 1⟩

/-- The expression of the element rule `<\s*[/?]?\s*([A-Za-z_][\w:.\-]*)`. -/
def markupElementExpr : Expr :=
  .cat (.set ⟨[(60, 60)]⟩) (.cat (.rep 0 none true (.set (shortClass true .space)))
    (.cat (.rep 0 (some 1) true (.set ⟨[(47, 47), (63, 63)]⟩))
      (.cat (.rep 0 none true (.set (shortClass true .space)))
        (.capture 1 (.cat (.set nameStartClass) (.rep 0 none true (.set markupNameClass)))))))

/-- The expression of the attribute rule `([A-Za-z_][\w:.\-]*)\s*=`. -/
def markupAttributeExpr : Expr :=
  .cat (.capture 1 (.cat (.set nameStartClass) (.rep 0 none true (.set markupNameClass))))
    (.cat (.rep 0 none true (.set (shortClass true .space))) (.set ⟨[(61, 61)]⟩))

/-- The words of the operator rule, in the order the rule tries them. -/
def markupOperators : List String := ["<?", "?>", "</", "/>", "<", ">"]

/-- The expression of the operator rule `<\?|\?>|</|/>|<|>`. -/
def markupOperatorExpr : Expr := Expr.alts (markupOperators.map fun w => Expr.literal w.toList)

/-- The expression of the comment rule `<!--.*?-->`. -/
def markupCommentExpr : Expr :=
  .cat (.set ⟨[(60, 60)]⟩) (.cat (.set ⟨[(33, 33)]⟩) (.cat (.set ⟨[(45, 45)]⟩)
    (.cat (.set ⟨[(45, 45)]⟩) (.cat (.rep 0 none false (.set notNewline))
      (.cat (.set ⟨[(45, 45)]⟩) (.cat (.set ⟨[(45, 45)]⟩) (.set ⟨[(62, 62)]⟩)))))))

/-- The expression of the comment opener `<!--`. -/
def commentOpenExpr : Expr := Expr.literal "<!--".toList

/-- The expression of the comment closer `-->`. -/
def commentCloseExpr : Expr := Expr.literal "-->".toList

/-- The element rule's program: `14` opens group `0`, `13` reads `<`, the loop at `11` reads
blanks through `12`, `10` tries a `/` or `?` at `9`, the loop at `7` reads blanks through `8`, `6`
opens group `1`, `5` reads the first character of the name, the loop at `3` reads the rest of it
through `4`, `2` closes group `1` and `1` group `0`. -/
def markupElementProgram : Program :=
  ⟨#[.accept, .save 1 0, .save 3 1, .split 4 2, .char markupNameClass.ranges.toArray 3,
    .char nameStartClass.ranges.toArray 3, .save 2 5, .split 8 6,
    .char (shortClass true .space).ranges.toArray 7, .char #[(47, 47), (63, 63)] 7, .split 9 7,
    .split 12 10, .char (shortClass true .space).ranges.toArray 11, .char #[(60, 60)] 11,
    .save 0 13], 14, 4⟩

theorem compile_markupElementExpr : markupElementExpr.compile = markupElementProgram := rfl

/-! ## The classes of names -/

namespace CharClass

theorem searchRanges_nameStart (ch : Char) :
    searchRanges nameStartClass.ranges.toArray ch.toNat = isNameStart ch := by
  rw [searchRanges_eq_any (Chained.ordered (by decide))]
  apply Bool.eq_iff_iff.2
  simp only [nameStartClass, List.any_cons, List.any_nil, Bool.or_false,
    Bool.or_eq_true, decide_eq_true_eq, isNameStart_iff]
  omega

theorem searchRanges_markupName_ascii {n : Nat} (hn : n < 128) :
    searchRanges markupNameClass.ranges.toArray n =
      decide ((45 ≤ n ∧ n ≤ 46) ∨ (48 ≤ n ∧ n ≤ 58) ∨ (65 ≤ n ∧ n ≤ 90) ∨ n = 95 ∨
        (97 ≤ n ∧ n ≤ 122)) := by
  rw [searchRanges_of_ascii (Chained.ordered (by decide +kernel))
    [(45, 46), (48, 58), (65, 90), (95, 95), (97, 122)] (by decide +kernel) (by decide +kernel) hn]
  apply Bool.eq_iff_iff.2
  simp only [List.any_cons, List.any_nil, Bool.or_false, Bool.or_eq_true, decide_eq_true_eq]
  omega

theorem markupName_of_isNameChar {ch : Char} (h : Highlight.isNameChar ch = true) :
    searchRanges markupNameClass.ranges.toArray ch.toNat = true := by
  rw [searchRanges_markupName_ascii (toNat_lt_of_isNameChar h)]
  have := isNameChar_iff.1 h
  simp only [decide_eq_true_eq]
  omega

theorem not_markupName_of_mem {ch : Char} (h : ch ∈ [' ', '=', '"', '<', '>', '/']) :
    searchRanges markupNameClass.ranges.toArray ch.toNat = false := by
  simp only [List.mem_cons, List.not_mem_nil, or_false] at h
  rcases h with rfl | rfl | rfl | rfl | rfl | rfl <;>
    · rw [searchRanges_markupName_ascii (by decide)]
      decide

theorem markupName_ne_quote (ch : Char)
    (h : searchRanges markupNameClass.ranges.toArray ch.toNat = true) : ch ≠ '"' := by
  rintro rfl
  rw [not_markupName_of_mem (by decide)] at h
  cases h

theorem nameStart_ne_quote (ch : Char)
    (h : searchRanges nameStartClass.ranges.toArray ch.toNat = true) : ch ≠ '"' := by
  rintro rfl
  rw [searchRanges_nameStart] at h
  exact absurd h (by decide)

end CharClass

/-! ## What the rules read -/

open CharClass

theorem markupElementExpr_leads : markupElementExpr.Leads (· ∈ ['<']) := by
  simp only [markupElementExpr, Expr.Leads]
  exact fun ch h => mem_of_singles ['<'] (by decide) (by decide) h

theorem markupAttributeExpr_leads : markupAttributeExpr.Leads fun ch => isNameStart ch = true := by
  simp only [markupAttributeExpr, Expr.Leads]
  exact fun ch h => (searchRanges_nameStart ch).symm.trans h

theorem markupAttributeExpr_within : markupAttributeExpr.Within (· ≠ '"') := by
  simp only [markupAttributeExpr, Expr.Within]
  exact ⟨⟨nameStart_ne_quote, markupName_ne_quote⟩, space_ne_quote,
    ne_quote_of_singles ['='] (by decide) (by decide) (by decide)⟩

theorem markupOperatorExpr_leads : markupOperatorExpr.Leads (· ∈ ['<', '?', '/', '>']) := by
  refine Expr.leads_alts (by simp [markupOperators]) fun e he => ?_
  simp only [markupOperators, List.map_cons, List.map_nil, List.mem_cons, List.not_mem_nil,
    or_false] at he
  rcases he with rfl | rfl | rfl | rfl | rfl | rfl <;> exact Expr.leads_literal _ (by decide)

theorem markupOperatorExpr_within : markupOperatorExpr.Within (· ≠ '"') := by
  refine Expr.within_alts fun e he => ?_
  simp only [markupOperators, List.map_cons, List.map_nil, List.mem_cons, List.not_mem_nil,
    or_false] at he
  rcases he with rfl | rfl | rfl | rfl | rfl | rfl <;> exact Expr.within_literal (by simp)

theorem Expr.Traverse.markupComment_bang {cs : Array Char} {i j : Nat} {σ τ : Array (Option Nat)}
    (h : Expr.Traverse cs markupCommentExpr i σ j τ) : cs[i]? = some '<' ∧ cs[i + 1]? = some '!' := by
  cases h with
  | cat hlt hrest =>
    cases hrest with
    | cat hbang _ =>
      obtain ⟨rfl, -, c, hc, hin⟩ := hlt.set_inv
      obtain ⟨-, -, d, hd, hin'⟩ := hbang.set_inv
      rw [List.mem_singleton.1 (mem_of_singles ['<'] rfl (by decide) hin)] at hc
      rw [List.mem_singleton.1 (mem_of_singles ['!'] rfl (by decide) hin')] at hd
      exact ⟨hc, hd⟩

/-- **What the attribute rule reads**: a character that starts a name, a run of name characters,
a run of blanks and `=`; it records the name, up to the blanks, as group `1`. -/
theorem Expr.Traverse.markupAttribute_inv {cs : Array Char} {i j : Nat} {σ ρ : Array (Option Nat)}
    (h : Expr.Traverse cs markupAttributeExpr i σ j ρ) :
    ∃ j₁ j₂, i < j₁ ∧ j₁ ≤ j₂ ∧ j = j₂ + 1 ∧
      (∃ ch, cs[i]? = some ch ∧ isNameStart ch = true) ∧
      (∀ x, i < x → x < j₁ →
        ∃ ch, cs[x]? = some ch ∧ searchRanges markupNameClass.ranges.toArray ch.toNat = true) ∧
      (∀ x, j₁ ≤ x → x < j₂ → ∃ ch, cs[x]? = some ch ∧
        searchRanges (shortClass true .space).ranges.toArray ch.toNat = true) ∧
      cs[j₂]? = some '=' ∧ ρ = (σ.setIfInBounds 2 (some i)).setIfInBounds 3 (some j₁) := by
  cases h with
  | cat hname hrest =>
    cases hname with
    | capture hinner =>
      cases hinner with
      | cat hfirst hrun =>
        obtain ⟨rfl, rfl, c, hc, hin⟩ := hfirst.set_inv
        obtain ⟨rfl, hle, hrun'⟩ := hrun.rep_set
        cases hrest with
        | cat hblanks heq =>
          obtain ⟨rfl, hle', hblank⟩ := hblanks.rep_set
          obtain ⟨rfl, rfl, d, hd, hind⟩ := heq.set_inv
          refine ⟨_, _, by omega, hle', rfl, ⟨c, hc, by rwa [searchRanges_nameStart] at hin⟩,
            fun x h₁ h₂ => hrun' x (by omega) h₂, hblank, ?_, rfl⟩
          rw [hd, List.mem_singleton.1 (mem_of_singles ['='] rfl (by decide) hind)]

/-- **What the operator rule reads**: one of its words, leaving the slots alone. -/
theorem Expr.traverse_markupOperator_iff {cs : Array Char} {i j : Nat} {σ τ : Array (Option Nat)} :
    Expr.Traverse cs markupOperatorExpr i σ j τ ↔
      τ = σ ∧ ∃ w ∈ markupOperators, j = i + w.length ∧ w.toList <+: cs.toList.drop i := by
  rw [markupOperatorExpr, Expr.traverse_alts_iff (by simp [markupOperators])]
  constructor
  · rintro ⟨e, he, htr⟩
    obtain ⟨w, hw, rfl⟩ := List.mem_map.1 he
    obtain ⟨rfl, rfl, hp⟩ := (Expr.traverse_literal_iff _).1 htr
    exact ⟨rfl, w, hw, by rw [String.length_toList], hp⟩
  · rintro ⟨rfl, w, hw, rfl, hp⟩
    exact ⟨_, List.mem_map.2 ⟨w, hw, rfl⟩,
      (Expr.traverse_literal_iff _).2 ⟨rfl, by rw [String.length_toList], hp⟩⟩

theorem markupElementProgram_targets : markupElementProgram.Targets := by decide

theorem markupElementProgram_ranked : markupElementProgram.Ranked markupElementProgram.quietRank := by
  decide

/-- **The element rule at `<` and a name.**  Where `<` is followed at once by a character that
starts a name, the depth-first search of the element rule reads the `<`, no blank and no `/` or
`?`, and then the longest run of name characters: group `1` is that run. -/
theorem Program.pick_markupElement {cs : Array Char} {i e : Nat} {c : Char}
    (hlt : cs[i]? = some '<') (hc : cs[i + 1]? = some c) (hstart : isNameStart c = true)
    (hrun : ∀ x, i + 2 ≤ x → x < e →
      ∃ ch, cs[x]? = some ch ∧ searchRanges markupNameClass.ranges.toArray ch.toNat = true)
    (hstop : ∀ ch, cs[e]? = some ch → searchRanges markupNameClass.ranges.toArray ch.toNat = false)
    (he : i + 2 ≤ e) :
    Program.Pick markupElementProgram cs 14 i (Array.replicate 4 none)
      (some (((((Array.replicate 4 none).setIfInBounds 0 (some i)).setIfInBounds 2
        (some (i + 1))).setIfInBounds 3 (some e)).setIfInBounds 1 (some e))) := by
  have hname := isNameStart_iff.1 hstart
  have hcode : c.toNat < 128 := by omega
  have hblank : ∀ ch, cs[i + 1]? = some ch →
      searchRanges (shortClass true .space).ranges.toArray ch.toNat = false := by
    intro ch h
    rw [hc, Option.some.injEq] at h
    subst h
    rw [searchRanges_space_ascii hcode]
    simp only [decide_eq_false_iff_not]
    omega
  have hmark : ∀ ch, cs[i + 1]? = some ch → searchRanges #[(47, 47), (63, 63)] ch.toNat = false := by
    intro ch h
    rw [hc, Option.some.injEq] at h
    subst h
    apply Bool.eq_false_iff.2
    intro hin
    have hmem := mem_of_singles ['/', '?'] rfl (by decide) hin
    simp only [List.mem_cons, List.not_mem_nil, or_false] at hmem
    rcases hmem with rfl | rfl <;> simp at hname
  have hopen : searchRanges #[(60, 60)] '<'.toNat = true :=
    searchRanges_of_mem_singles ['<'] rfl (by decide) (List.mem_singleton_self _)
  have hgroup : Program.Pick markupElementProgram cs 6 (i + 1)
      ((Array.replicate 4 none).setIfInBounds 0 (some i))
      (some (((((Array.replicate 4 none).setIfInBounds 0 (some i)).setIfInBounds 2
        (some (i + 1))).setIfInBounds 3 (some e)).setIfInBounds 1 (some e))) :=
    .save rfl (.read rfl hc (by rwa [searchRanges_nameStart])
      (Program.Pick.loop rfl rfl hrun hstop (.save rfl (.save rfl (.accept rfl))) he))
  exact .save rfl (.read rfl hlt hopen (Program.Pick.loop rfl rfl
    (fun x h₁ h₂ => absurd h₂ (by omega)) hblank (.second rfl (.noRead rfl hmark)
      (Program.Pick.loop rfl rfl (fun x h₁ h₂ => absurd h₂ (by omega)) hblank hgroup le_rfl))
    le_rfl))

theorem markupAttributeProgram_targets : markupAttributeExpr.compile.Targets := by decide

theorem markupAttributeProgram_ranked :
    markupAttributeExpr.compile.Ranked markupAttributeExpr.compile.quietRank := by decide

theorem markupOperatorProgram_targets : markupOperatorExpr.compile.Targets := by decide

theorem markupOperatorProgram_ranked : markupOperatorExpr.compile.Ranked id := by decide

end Regex

namespace Pattern

open Regex

/-- The element rule's pattern, styling group `1`. -/
def markupElement : Pattern :=
  ⟨"<\\s*[/?]?\\s*(" ++ markupName ++ ")", 1, markupElementExpr, markupElementExpr.compile⟩

/-- The attribute rule's pattern, styling group `1`. -/
def markupAttribute : Pattern :=
  ⟨"(" ++ markupName ++ ")\\s*=", 1, markupAttributeExpr, markupAttributeExpr.compile⟩

def markupOperator : Pattern :=
  ⟨"<\\?|\\?>|</|/>|<|>", 0, markupOperatorExpr, markupOperatorExpr.compile⟩

def markupComment : Pattern := ⟨"<!--.*?-->", 0, markupCommentExpr, markupCommentExpr.compile⟩

def commentOpen : Pattern := ⟨"<!--", 0, commentOpenExpr, commentOpenExpr.compile⟩

def commentClose : Pattern := ⟨"-->", 0, commentCloseExpr, commentCloseExpr.compile⟩

/-! ## Readings -/

set_option maxRecDepth 4000 in
theorem withGroup_markupElement :
    withGroup ("<\\s*[/?]?\\s*(" ++ markupName ++ ")") 1 = .ok markupElement :=
  withGroup_of_reading rfl (by cbv) (by decide) (by decide) (by decide)

set_option maxRecDepth 4000 in
theorem withGroup_markupAttribute : withGroup ("(" ++ markupName ++ ")\\s*=") 1 = .ok markupAttribute :=
  withGroup_of_reading rfl (by cbv) (by decide) (by decide) (by decide)

set_option maxRecDepth 4000 in
theorem withGroup_markupOperator : withGroup "<\\?|\\?>|</|/>|<|>" 0 = .ok markupOperator :=
  withGroup_of_reading rfl (by cbv) (by decide) (by decide) (by decide)

theorem withGroup_markupComment : withGroup "<!--.*?-->" 0 = .ok markupComment :=
  withGroup_of_reading rfl (by cbv) (by decide) (by decide) (by decide)

theorem withGroup_commentOpen : withGroup "<!--" 0 = .ok commentOpen :=
  withGroup_of_reading rfl (by cbv) (by decide) (by decide) (by decide)

theorem withGroup_commentClose : withGroup "-->" 0 = .ok commentClose :=
  withGroup_of_reading rfl (by cbv) (by decide) (by decide) (by decide)

theorem compiled_markupElement : markupElement.Compiled := compiled_of_withGroup withGroup_markupElement

theorem compiled_markupAttribute : markupAttribute.Compiled :=
  compiled_of_withGroup withGroup_markupAttribute

theorem compiled_markupOperator : markupOperator.Compiled :=
  compiled_of_withGroup withGroup_markupOperator

theorem compiled_markupComment : markupComment.Compiled := compiled_of_withGroup withGroup_markupComment

theorem compiled_commentOpen : commentOpen.Compiled := compiled_of_withGroup withGroup_commentOpen

end Pattern

namespace Grammar

open Pattern

theorem markupGrammar_rules : markupGrammar.rules = [⟨markupElement, .element⟩,
    ⟨markupAttribute, .attributeName⟩, ⟨Pattern.quoted, .value⟩, ⟨markupOperator, .operator⟩,
    ⟨number, .number⟩, ⟨markupComment, .comment⟩] := by
  simp only [markupGrammar, rules_withBlockComment, rules_withRules]
  rw [show (["xml", "html", "htm", "svg", "xsd", "osim"].foldl addExtension (named "markup")).rules =
    [] from rfl]
  simp [withGroup_markupElement, withGroup_markupAttribute, withGroup_quoted,
    withGroup_markupOperator, withGroup_number, withGroup_markupComment, Except.toOption]

theorem markupGrammar_blockComment :
    markupGrammar.blockComment = some ⟨commentOpen, commentClose⟩ := by
  simp only [markupGrammar, withBlockComment, setBlockComment, Pattern.new, withGroup_commentOpen,
    withGroup_commentClose]
  rfl

end Grammar

end Highlight
