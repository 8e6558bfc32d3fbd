import Mathlib
import Highlight.Proofs.FirstMatch
import Highlight.Proofs.AsciiClasses
import Highlight.Grammar.Builtin

/-!
# The number rule

The grammars for configuration files and for markup style numbers by `numberPattern`:
`[-+]?\b\d+(?:\.\d+)?(?:[eE][-+]?\d+)?\b`.  Whatever else it reads, a number starts with at most
one sign and then a digit at a word boundary (`Expr.traverse_number`).  So on a line where no
character outside quotes is a sign, and every digit outside quotes follows a word character
and is one itself, as in a name, the rule finds nothing (`matchesFrom_number_eq_nil`).
-/

namespace Highlight

namespace Regex

/-- The expression that `numberPattern` reads as. -/
def numberExpr : Expr :=
  .cat (.rep 0 (some 1) true (.set ⟨[(43, 43), (45, 45)]⟩))
    (.cat (.look (.wordBoundary true))
      (.cat (.rep 1 none true (.set (shortClass true .digit)))
        (.cat (.rep 0 (some 1) true (.cat (.set ⟨[(46, 46)]⟩) (.rep 1 none true (.set (shortClass true .digit)))))
          (.cat (.rep 0 (some 1) true (.cat (.set ⟨[(69, 69), (101, 101)]⟩)
              (.cat (.rep 0 (some 1) true (.set ⟨[(43, 43), (45, 45)]⟩))
                (.rep 1 none true (.set (shortClass true .digit))))))
            (.look (.wordBoundary true))))))

/-- **Where a number starts**: after at most one sign, at a word boundary, with a digit. -/
theorem Expr.traverse_number {cs : Array Char} {b k : Nat} {σ τ : Array (Option Nat)}
    (h : Expr.Traverse cs numberExpr b σ k τ) :
    ∃ j, b ≤ j ∧ (∀ x, b ≤ x → x < j → ∃ ch, cs[x]? = some ch ∧ (ch.toNat = 43 ∨ ch.toNat = 45)) ∧
      Look.holds (.wordBoundary true) cs j = true ∧ ∃ ch, cs[j]? = some ch ∧
        CharClass.searchRanges (shortClass true .digit).ranges.toArray ch.toNat = true := by
  cases h with
  | cat hsign hrest =>
    rename_i j _
    obtain ⟨-, hbj, hsigns⟩ := Expr.Traverse.rep_set hsign
    cases hrest with
    | cat hlook hdigits =>
      cases hlook with
      | look hl =>
        cases hdigits with
        | cat hrun _ =>
          have hlt := hrun.lt_of_nullable_eq_false rfl
          obtain ⟨-, -, hall⟩ := Expr.Traverse.rep_set hrun
          refine ⟨j, hbj, fun x h₁ h₂ => ?_, hl, hall j le_rfl hlt⟩
          obtain ⟨ch, hch, hin⟩ := hsigns x h₁ h₂
          rw [CharClass.searchRanges_eq_any (by decide)] at hin
          simp only [List.any_cons, List.any_nil, Bool.or_false, Bool.or_eq_true,
            decide_eq_true_eq] at hin
          exact ⟨ch, hch, by omega⟩

end Regex

namespace Pattern

open Regex Subject

/-- The number pattern, styling the whole match. -/
def number : Pattern := ⟨numberPattern, 0, numberExpr, numberExpr.compile⟩

set_option maxRecDepth 4000 in
theorem reading_number : (parsePattern numberPattern).map
    (fun p => (p.expr, p.tree.minLen, p.tree.automatonBound)) = .ok (numberExpr, some 1, 1850088) := by
  cbv

theorem withGroup_number : withGroup numberPattern 0 = .ok number :=
  withGroup_of_reading rfl reading_number (by decide) (by decide) (by decide)

theorem compiled_number : number.Compiled := compiled_of_withGroup withGroup_number

/-- **No number outside quotes where digits sit inside words.**  When no character outside quotes
from `x` on is a sign, and every digit outside quotes from `x` on is a word character after
another word character, the number rule finds nothing from `x`. -/
theorem matchesFrom_number_eq_nil {t : String} {x : Nat} (hx : x ≤ (ofString t).chars.size)
    (hsign : ∀ b, x ≤ b → (ofString t).betweenQuotes ((ofString t).byteAt b) = false →
      ∀ ch, (ofString t).chars[b]? = some ch → ch.toNat ≠ 43 ∧ ch.toNat ≠ 45)
    (hdigit : ∀ b, x ≤ b → (ofString t).betweenQuotes ((ofString t).byteAt b) = false →
      ∀ ch, (ofString t).chars[b]? = some ch →
        CharClass.searchRanges (shortClass true .digit).ranges.toArray ch.toNat = true →
        isWordFor true ch = true ∧ 0 < b ∧
          ∃ c', (ofString t).chars[b - 1]? = some c' ∧ isWordFor true c' = true) :
    number.matchesFrom (ofString t) ((ofString t).byteAt x) = [] := by
  refine matchesFrom_eq_nil_of_inside compiled_number hx fun b hb k σ ρ htr => ?_
  obtain ⟨j, hbj, hsigns, hbound, ch, hch, hdig⟩ := Expr.traverse_number htr
  by_contra hout
  rw [Bool.not_eq_true] at hout
  obtain rfl : j = b := by
    by_contra hne
    obtain ⟨c, hc, hcode⟩ := hsigns b le_rfl (by omega)
    have := hsign b hb hout c hc
    omega
  obtain ⟨hword, hpos, c', hc', hword'⟩ := hdigit j hb hout ch hch hdig
  simp [Look.holds, hch, hc', hword, hword', Nat.pos_iff_ne_zero.1 hpos] at hbound

end Pattern

end Highlight
