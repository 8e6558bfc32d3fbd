import Mathlib
import Highlight.Proofs.FirstMatch
import Highlight.Proofs.AsciiClasses
import Highlight.Grammar.Tokenize

/-!
# Quoted strings

The grammars for configuration files and for markup style a quoted value by the rule `"[^"]*"`:
a quote, any characters other than a quote, and a quote.  On any line the rule pairs up the
quotes of the line from the left, the first with the second, the third with the fourth and so
on, and gives each pair one span from the first quote to the second, both included; a last quote
with no partner gets none (`spans_quoted`).

From a position after an even number of quotes the search finds the next quote, and the only
traversal from there runs to the quote after it (`Expr.traverse_quoted`): that match starts
outside quotes, so the quote-aware search keeps it, and it ends after an even number of quotes
again, where the next search starts (`quotedSpans_from`).
-/

namespace Highlight

/-- The pairs of a list: the first with the second, the third with the fourth, and so on; a last
one with no partner is left out. -/
def pairUp : List Nat → List (Nat × Nat)
  | a :: b :: rest => (a, b) :: pairUp rest
  | _ => []

/-- The indices of the quotes of `cs` from index `x` on, in order. -/
def quotesFrom (cs : Array Char) (x : Nat) : List Nat :=
  (List.range' x (cs.size - x)).filter fun j => cs[j]? == some '"'

section QuotesFrom

variable {cs : Array Char}

theorem quotesFrom_of_size_le {x : Nat} (h : cs.size ≤ x) : quotesFrom cs x = [] := by
  simp [quotesFrom, Nat.sub_eq_zero_of_le h]

theorem quotesFrom_succ {x : Nat} (h : x < cs.size) :
    quotesFrom cs x = if cs[x]? = some '"' then x :: quotesFrom cs (x + 1)
      else quotesFrom cs (x + 1) := by
  rw [quotesFrom, show cs.size - x = cs.size - (x + 1) + 1 by omega, List.range'_succ,
    List.filter_cons]
  by_cases hq : cs[x]? = some '"' <;> simp [hq, quotesFrom]

theorem quotesFrom_eq_cons {x q : Nat} {rest : List Nat} (h : quotesFrom cs x = q :: rest) :
    x ≤ q ∧ cs[q]? = some '"' ∧ (∀ y, x ≤ y → y < q → cs[y]? ≠ some '"') ∧
      rest = quotesFrom cs (q + 1) := by
  by_cases hx : x < cs.size
  · rw [quotesFrom_succ hx] at h
    by_cases hq : cs[x]? = some '"'
    · simp only [hq, if_true, List.cons.injEq] at h
      obtain ⟨rfl, rfl⟩ := h
      exact ⟨le_rfl, hq, fun y h₁ h₂ => absurd h₂ (by omega), rfl⟩
    · simp only [hq, if_false] at h
      obtain ⟨h₁, h₂, h₃, h₄⟩ := quotesFrom_eq_cons h
      refine ⟨by omega, h₂, fun y hy hyq => ?_, h₄⟩
      rcases Nat.eq_or_lt_of_le hy with rfl | hy
      · exact hq
      · exact h₃ y hy hyq
  · rw [quotesFrom_of_size_le (by omega)] at h
    cases h
termination_by cs.size - x

theorem not_quote_of_quotesFrom_eq_nil {x : Nat} (h : quotesFrom cs x = []) :
    ∀ y, x ≤ y → cs[y]? ≠ some '"' := by
  intro y hxy hy
  have hsize : y < cs.size := (Array.getElem?_eq_some_iff.1 hy).1
  have : y ∈ quotesFrom cs x := by
    simp only [quotesFrom, List.mem_filter, List.mem_range'_1, hy, beq_self_eq_true, and_true]
    omega
  rw [h] at this
  cases this

theorem quotesFrom_of_no_quote {x y : Nat} (hxy : x ≤ y) (hy : y ≤ cs.size)
    (h : ∀ z, x ≤ z → z < y → cs[z]? ≠ some '"') : quotesFrom cs x = quotesFrom cs y := by
  induction y, hxy using Nat.le_induction with
  | base => rfl
  | succ y hxy ih =>
    rw [ih (by omega) fun z h₁ h₂ => h z h₁ (by omega), quotesFrom_succ (by omega),
      if_neg (h y hxy (by omega))]

end QuotesFrom

theorem count_take_succ (l : List Char) (y : Nat) :
    (l.take (y + 1)).count '"' = (l.take y).count '"' + if l[y]? = some '"' then 1 else 0 := by
  rw [List.take_add_one, List.count_append]
  cases h : l[y]? with
  | none => simp
  | some c => by_cases hc : c = '"' <;> simp [hc]

theorem count_take_of_no_quote {l : List Char} {x q : Nat} (hxq : x ≤ q)
    (h : ∀ y, x ≤ y → y < q → l[y]? ≠ some '"') : (l.take q).count '"' = (l.take x).count '"' := by
  induction q, hxq using Nat.le_induction with
  | base => rfl
  | succ q hxq ih =>
    rw [count_take_succ, if_neg (h q hxq (by omega)), Nat.add_zero]
    exact ih fun y h₁ h₂ => h y h₁ (by omega)

namespace Regex

/-- The expression that `"[^"]*"` reads as. -/
def quotedExpr : Expr :=
  .cat (.set ⟨[(34, 34)]⟩)
    (.cat (.rep 0 none true (.set ⟨[(0, 33), (35, 55295), (57344, 1114111)]⟩)) (.set ⟨[(34, 34)]⟩))

/-- Its program: `6` opens group `0`, `5` reads the opening quote, the loop at `3` reads other
characters through `4`, `2` reads the closing quote and `1` closes group `0`. -/
def quotedProgram : Program :=
  ⟨#[.accept, .save 1 0, .char #[(34, 34)] 1, .split 4 2,
    .char #[(0, 33), (35, 55295), (57344, 1114111)] 3, .char #[(34, 34)] 3, .save 0 5], 6, 2⟩

theorem compile_quotedExpr : quotedExpr.compile = quotedProgram := rfl

theorem quotedProgram_targets : quotedProgram.Targets := by decide

theorem quotedProgram_ranked : quotedProgram.Ranked quotedProgram.quietRank := by decide

theorem searchRanges_quote (c : Char) :
    CharClass.searchRanges #[(34, 34)] c.toNat = decide (c = '"') :=
  CharClass.searchRanges_single (d := '"') rfl c

theorem searchRanges_notQuote (c : Char) :
    CharClass.searchRanges #[(0, 33), (35, 55295), (57344, 1114111)] c.toNat = decide (c ≠ '"') :=
  CharClass.searchRanges_allBut (d := '"') rfl rfl (by decide) c

variable {cs : Array Char}

/-- **What a quoted string reads**: a quote, characters other than quotes, and a quote. -/
theorem Expr.traverse_quoted {b k : Nat} {σ τ : Array (Option Nat)}
    (h : Expr.Traverse cs quotedExpr b σ k τ) :
    b + 2 ≤ k ∧ cs[b]? = some '"' ∧ cs[k - 1]? = some '"' ∧
      ∀ y, b < y → y < k - 1 → cs[y]? ≠ some '"' := by
  cases h with
  | cat hopen hrest =>
    cases hopen with
    | set hch hin =>
      cases hrest with
      | cat hloop hclose =>
        obtain ⟨-, hle, hall⟩ := Expr.Traverse.rep_set hloop
        cases hclose with
        | set hch' hin' =>
          rename_i c c'
          rw [searchRanges_quote, decide_eq_true_eq] at hin hin'
          subst hin hin'
          refine ⟨by omega, hch, by simpa using hch', fun y h₁ h₂ => ?_⟩
          obtain ⟨ch, hy, hnot⟩ := hall y (by omega) (by omega)
          rw [searchRanges_notQuote, decide_eq_true_eq] at hnot
          rw [hy]
          exact fun he => hnot (Option.some.inj he)

theorem Program.pick_quoted {q r : Nat} (hq : cs[q]? = some '"') (hr : cs[r]? = some '"')
    (hqr : q < r) (hbetween : ∀ y, q < y → y < r → cs[y]? ≠ some '"') :
    Program.Pick quotedProgram cs 6 q (Array.replicate 2 none)
      (some (((Array.replicate 2 none).setIfInBounds 0 (some q)).setIfInBounds 1 (some (r + 1)))) := by
  have hrsize : r < cs.size := (Array.getElem?_eq_some_iff.1 hr).1
  have hrun : ∀ x, q + 1 ≤ x → x < r →
      ∃ ch, cs[x]? = some ch ∧
        CharClass.searchRanges #[(0, 33), (35, 55295), (57344, 1114111)] ch.toNat = true := by
    intro x h₁ h₂
    obtain ⟨ch, hch⟩ : ∃ ch, cs[x]? = some ch := ⟨_, Array.getElem?_eq_getElem (by omega)⟩
    refine ⟨ch, hch, ?_⟩
    rw [searchRanges_notQuote, decide_eq_true_eq]
    rintro rfl
    exact hbetween x (by omega) h₂ hch
  have hstop : ∀ ch, cs[r]? = some ch →
      CharClass.searchRanges #[(0, 33), (35, 55295), (57344, 1114111)] ch.toNat = false := by
    intro ch hch
    rw [hr, Option.some.injEq] at hch
    subst hch
    rw [searchRanges_notQuote]
    decide
  exact .save rfl (.read rfl hq (by rw [searchRanges_quote]; decide)
    (Program.Pick.loop rfl rfl hrun hstop
      (.read rfl hr (by rw [searchRanges_quote]; decide) (.save rfl (.accept rfl))) hqr))

end Regex

namespace Pattern

open Regex Subject

/-- The pattern of a quoted value, styling the whole match. -/
def quoted : Pattern := ⟨"\"[^\"]*\"", 0, quotedExpr, quotedExpr.compile⟩

theorem reading_quoted : (parsePattern "\"[^\"]*\"").map
    (fun p => (p.expr, p.tree.minLen, p.tree.automatonBound)) = .ok (quotedExpr, some 2, 5764) := by
  cbv

theorem withGroup_quoted : withGroup "\"[^\"]*\"" 0 = .ok quoted :=
  withGroup_of_reading rfl reading_quoted (by decide) (by decide) (by decide)

theorem compiled_quoted : quoted.Compiled := compiled_of_withGroup withGroup_quoted

section Line

variable {t : String}

theorem findIn_quoted {x q r : Nat} (hxq : x ≤ q) (hq : (ofString t).chars[q]? = some '"')
    (hr : (ofString t).chars[r]? = some '"') (hqr : q < r)
    (hbefore : ∀ y, x ≤ y → y < q → (ofString t).chars[y]? ≠ some '"')
    (hbetween : ∀ y, q < y → y < r → (ofString t).chars[y]? ≠ some '"') :
    quoted.findIn (ofString t) ((ofString t).byteAt x) =
      some ⟨((ofString t).byteAt q, (ofString t).byteAt (r + 1)),
        some ((ofString t).byteAt q, (ofString t).byteAt (r + 1))⟩ := by
  have hrsize : r < (ofString t).chars.size := (Array.getElem?_eq_some_iff.1 hr).1
  have hx : x ≤ (ofString t).chars.size := by omega
  have hle := byteAt_le_byteLength hx
  have hsearch : quotedProgram.search (ofString t).chars x =
      some (((Array.replicate 2 none).setIfInBounds 0 (some q)).setIfInBounds 1 (some (r + 1))) :=
    Expr.search_eq_some_of_first (r := quotedExpr) quotedProgram_targets quotedProgram_ranked hxq
      (by omega)
      (fun s h₁ h₂ k ρ htr => by
        cases htr with
        | capture hinner => exact hbefore s h₁ h₂ (Expr.traverse_quoted hinner).2.1)
      (Program.pick_quoted hq hr hqr hbetween)
  rw [findIn, if_neg (by simp only [byteLength_ofString]; omega), charIndex_byteAt hx]
  simp only [quoted, compile_quotedExpr, hsearch]
  simp

/-- **The spans of quoted values from a position outside quotes**: one over each pair of the
quotes from there on, paired from the left. -/
theorem quotedSpans_from (st : Style) (x : Nat) (hx : x ≤ (ofString t).chars.size)
    (heven : (t.toList.take x).count '"' % 2 = 0) :
    (quoted.matchesFrom (ofString t) ((ofString t).byteAt x)).filterMap
        (Rule.styledSpan ⟨quoted, st⟩) =
      (pairUp (quotesFrom (ofString t).chars x)).map fun q =>
        ⟨(ofString t).byteAt q.1, (ofString t).byteAt (q.2 + 1), st⟩ := by
  match hqs : quotesFrom (ofString t).chars x with
  | [] =>
    have hnone := not_quote_of_quotesFrom_eq_nil hqs
    rw [matchesFrom_eq_nil_of_inside compiled_quoted hx fun b hb k σ ρ htr =>
      absurd (Expr.traverse_quoted htr).2.1 (hnone b hb)]
    rfl
  | [q] =>
    obtain ⟨hxq, -, hbefore, hrest⟩ := quotesFrom_eq_cons hqs
    have hnone := not_quote_of_quotesFrom_eq_nil hrest.symm
    rw [matchesFrom_eq_nil_of_inside compiled_quoted hx fun b hb k σ ρ htr => ?_]
    · rfl
    · obtain ⟨hbk, hb', hk, -⟩ := Expr.traverse_quoted htr
      rcases Nat.lt_or_ge b q with hlt | hge
      · exact absurd hb' (hbefore b hb hlt)
      · exact absurd hk (hnone (k - 1) (by omega))
  | q :: r :: rest =>
    obtain ⟨hxq, hq, hbefore, hrest⟩ := quotesFrom_eq_cons hqs
    obtain ⟨hqr, hr, hbetween, hrest'⟩ := quotesFrom_eq_cons hrest.symm
    have hrsize : r < (ofString t).chars.size := (Array.getElem?_eq_some_iff.1 hr).1
    have hcq : (t.toList.take q).count '"' = (t.toList.take x).count '"' :=
      count_take_of_no_quote hxq fun y h₁ h₂ => by simpa using hbefore y h₁ h₂
    have hcr : (t.toList.take (r + 1)).count '"' = (t.toList.take x).count '"' + 2 := by
      rw [count_take_succ, if_pos (by simpa using hr),
        count_take_of_no_quote (by omega) fun y h₁ h₂ => by simpa using hbetween y h₁ h₂,
        count_take_succ, if_pos (by simpa using hq), hcq]
    have hout : (ofString t).betweenQuotes ((ofString t).byteAt q) = false := by
      rw [betweenQuotes_byteAt_count (by omega), hcq]
      simp [heven]
    have hfind : quoted.findNext (ofString t) ((ofString t).byteAt x) =
        some ⟨((ofString t).byteAt q, (ofString t).byteAt (r + 1)),
          some ((ofString t).byteAt q, (ofString t).byteAt (r + 1))⟩ := by
      rw [findNext_of_skipped compiled_quoted quotedProgram_targets quotedProgram_ranked
        (by decide) hxq (by omega)
        (fun b h₁ h₂ k σ ρ htr => absurd (Expr.traverse_quoted htr).2.1 (hbefore b h₁ h₂))
        (Program.pick_quoted hq hr hqr hbetween) hout,
        findIn_quoted le_rfl hq hr hqr (fun y h₁ h₂ => absurd h₂ (by omega)) hbetween]
    have hgrow : (ofString t).byteAt x < (ofString t).byteAt (r + 1) :=
      byteAt_lt_byteAt (by omega) (by omega)
    have hend := byteAt_le_byteLength (s := t) (i := r + 1) (by omega)
    have hspan : (ofString t).byteAt q < (ofString t).byteAt (r + 1) :=
      byteAt_lt_byteAt (by omega) (by omega)
    have hstyled : Rule.styledSpan ⟨quoted, st⟩ ⟨((ofString t).byteAt q, (ofString t).byteAt (r + 1)),
        some ((ofString t).byteAt q, (ofString t).byteAt (r + 1))⟩ =
        some ⟨(ofString t).byteAt q, (ofString t).byteAt (r + 1), st⟩ := by
      simp [Rule.styledSpan, hspan]
    rw [matchesFrom_of_findNext hfind ⟨hgrow, by simpa using hend⟩, List.filterMap_cons_some hstyled,
      quotedSpans_from st (r + 1) (by omega) (by omega), ← hrest']
    rfl
termination_by (ofString t).chars.size - x
decreasing_by all_goals omega

end Line

end Pattern

open Pattern Subject in
/-- **A quoted-string rule styles each quoted stretch of a line.**  On any line, the rule `"[^"]*"`
pairs the quotes from the left and gives each pair one span, from the first quote to the second,
both included; a last quote with no partner gets none. -/
theorem spans_quoted (st : Style) (t : String) :
    Rule.spans ⟨Pattern.quoted, st⟩ (ofString t) =
      (pairUp (quotesFrom (ofString t).chars 0)).map fun q =>
        ⟨(ofString t).byteAt q.1, (ofString t).byteAt (q.2 + 1), st⟩ := by
  have h := quotedSpans_from (t := t) st 0 (Nat.zero_le _) (by simp)
  rwa [byteAt_zero] at h

end Highlight
