import Mathlib
import Highlight.Proofs.LeftmostFirst
import Highlight.Proofs.RangeSearch
import Highlight.Proofs.QuoteAware
import Highlight.Grammar.Tokenize

/-!
# The minus rule of the scripting language

The scripting language styles a minus sign through the rule `(-)(?:[^-]|$)|--+` with group `1`:
a lone minus sign together with the character after it (or the end of the line), styling the
minus sign, or else a run of two or more, styling nothing.  Its program is small enough to write
out, and the depth-first outcome of each start position follows by hand from its instructions
(`pick_minus_lone`, `pick_minus_run`); `search_eq_some` turns those into what the search finds
from any character boundary.

The match swallows the character after a lone minus sign and a whole run, so the next search
starts past it.  It still finds every lone minus sign because it always resumes at the edge of a
run: where the character before it is no minus sign or it has none at all (`scanStep_minus`).
A rule whose every search is such a step, finding the next place a span starts and no other on
the way, has one span over each such place outside quotes (`Rule.spans_from_of_scanStep`, which
the keyword rule uses too).  That gives the minus rule's spans over any line: one over each lone
minus sign that stands outside quotes (`spans_minusRule`).
-/

namespace Highlight

namespace Regex

/-- The expression that `(-)(?:[^-]|$)|--+` reads as. -/
def minusExpr : Expr :=
  .alt (.cat (.capture 1 (.set ⟨[(45, 45)]⟩))
      (.alt (.set ⟨[(0, 44), (46, 55295), (57344, 1114111)]⟩) (.look .textEnd)))
    (.cat (.set ⟨[(45, 45)]⟩) (.rep 1 none true (.set ⟨[(45, 45)]⟩)))

/-- Its program: `12` opens group `0`, `11` tries the lone minus (`7`…`1`) before the run
(`10`, `9` and the loop at `8`), `1` closes group `0` and `0` accepts. -/
def minusProgram : Program :=
  ⟨#[.accept, .save 1 0, .char #[(0, 44), (46, 55295), (57344, 1114111)] 1, .assert .textEnd 1,
    .split 2 3, .save 3 4, .char #[(45, 45)] 5, .save 2 6, .split 9 1, .char #[(45, 45)] 8,
    .char #[(45, 45)] 9, .split 7 10, .save 0 11], 12, 4⟩

theorem compile_minusExpr : minusExpr.compile = minusProgram := rfl

theorem minusProgram_targets : minusProgram.Targets := by decide

/-- The loop's split ranks above the minus it loops back to. -/
def minusRank (pc : Nat) : Nat := if pc = 8 then 10 else pc

theorem minusProgram_ranked : minusProgram.Ranked minusRank := by decide

theorem toNat_eq_dash {c : Char} : c.toNat = 45 ↔ c = '-' := by
  constructor
  · intro h
    exact Char.ext (UInt32.toNat_inj.1 (by rw [Char.toNat_val]; exact h))
  · rintro rfl
    rfl

theorem searchRanges_dash (c : Char) : CharClass.searchRanges #[(45, 45)] c.toNat = decide (c = '-') := by
  rw [CharClass.searchRanges_eq_any (by decide)]
  simp only [List.any_cons, List.any_nil, Bool.or_false]
  by_cases h : c = '-'
  · subst h
    decide
  · have : c.toNat ≠ 45 := fun h' => h (toNat_eq_dash.1 h')
    simp [h]
    omega

theorem searchRanges_notDash (c : Char) :
    CharClass.searchRanges #[(0, 44), (46, 55295), (57344, 1114111)] c.toNat = decide (c ≠ '-') := by
  rw [CharClass.searchRanges_eq_any (by decide)]
  have hvalid := c.valid
  simp only [UInt32.isValidChar, Nat.isValidChar, Char.toNat_val] at hvalid
  simp only [List.any_cons, List.any_nil, Bool.or_false]
  by_cases h : c = '-'
  · subst h
    decide
  · have : c.toNat ≠ 45 := fun h' => h (toNat_eq_dash.1 h')
    simp [h]
    omega

namespace Program

variable {cs : Array Char}

theorem dash_mem : CharClass.searchRanges #[(45, 45)] '-'.toNat = true := by
  rw [searchRanges_dash]
  decide

theorem noRead_dash {s : Nat} (h : cs[s]? ≠ some '-') :
    ∀ ch, cs[s]? = some ch → CharClass.searchRanges #[(45, 45)] ch.toNat = false := by
  intro ch hch
  have : ch ≠ '-' := fun hd => h (hd ▸ hch)
  simp [searchRanges_dash, this]

theorem pick_minus_of_ne {s : Nat} {σ : Array (Option Nat)} (h : cs[s]? ≠ some '-') :
    Pick minusProgram cs 12 s σ none :=
  .save rfl (.second rfl (.save rfl (.noRead rfl (noRead_dash h))) (.noRead rfl (noRead_dash h)))

theorem pick_minus_lone {s : Nat} {c : Char} {σ : Array (Option Nat)} (hs : cs[s]? = some '-')
    (hc : cs[s + 1]? = some c) (hne : c ≠ '-') :
    Pick minusProgram cs 12 s σ (some ((((σ.setIfInBounds 0 (some s)).setIfInBounds 2 (some s)).setIfInBounds
      3 (some (s + 1))).setIfInBounds 1 (some (s + 2)))) :=
  .save rfl (.first rfl (.save rfl (.read rfl hs dash_mem
    (.save rfl (.first rfl (.read rfl hc (by rw [searchRanges_notDash]; simp [hne])
      (.save rfl (.accept rfl))))))))

theorem pick_minus_lone_end {s : Nat} {σ : Array (Option Nat)} (hs : cs[s]? = some '-')
    (hend : cs.size = s + 1) :
    Pick minusProgram cs 12 s σ (some ((((σ.setIfInBounds 0 (some s)).setIfInBounds 2 (some s)).setIfInBounds
      3 (some (s + 1))).setIfInBounds 1 (some (s + 1)))) :=
  .save rfl (.first rfl (.save rfl (.read rfl hs dash_mem
    (.save rfl (.second rfl (.noRead rfl fun ch h => by rw [Array.getElem?_eq_none (by omega)] at h; cases h)
      (.holds rfl (by simp [Look.holds, hend]) (.save rfl (.accept rfl))))))))

theorem pick_minus_loop {k : Nat} {σ : Array (Option Nat)} (hk : cs[k]? ≠ some '-') :
    ∀ d pos, k - pos = d → pos ≤ k → (∀ i, pos ≤ i → i < k → cs[i]? = some '-') →
      Pick minusProgram cs 8 pos σ (some (σ.setIfInBounds 1 (some k)))
  | 0, pos, hd, hpos, _ => by
    obtain rfl : pos = k := by omega
    exact .second rfl (.noRead rfl (noRead_dash hk)) (.save rfl (.accept rfl))
  | d + 1, pos, hd, hpos, hrun =>
    .first rfl (.read rfl (hrun pos le_rfl (by omega)) dash_mem
      (pick_minus_loop hk d (pos + 1) (by omega) (by omega) fun i h₁ h₂ => hrun i (by omega) h₂))

theorem pick_minus_run {s k : Nat} {σ : Array (Option Nat)} (hsk : s + 2 ≤ k)
    (hrun : ∀ i, s ≤ i → i < k → cs[i]? = some '-') (hk : cs[k]? ≠ some '-') :
    Pick minusProgram cs 12 s σ (some ((σ.setIfInBounds 0 (some s)).setIfInBounds 1 (some k))) := by
  have hs := hrun s le_rfl (by omega)
  have hn := hrun (s + 1) (by omega) (by omega)
  have hlt : s + 1 < cs.size := (Array.getElem?_eq_some_iff.1 hn).1
  -- the lone-minus branch fails on the second minus, and not at the end of the text
  have hlone : Pick minusProgram cs 7 s (σ.setIfInBounds 0 (some s)) none :=
    .save rfl (.read rfl hs dash_mem
      (.save rfl (.second rfl (.noRead rfl fun ch h => by
          rw [hn] at h
          cases h
          rw [searchRanges_notDash]
          decide)
        (.fails rfl (by simp [Look.holds]; omega)))))
  exact .save rfl (.second rfl hlone (.read rfl hs dash_mem
    (.read rfl hn dash_mem
      (pick_minus_loop hk _ (s + 1 + 1) rfl (by omega) fun i h₁ h₂ => hrun i (by omega) h₂))))

theorem search_minus_none {i : Nat} (h : ∀ j, i ≤ j → cs[j]? ≠ some '-') :
    minusProgram.search cs i = none :=
  search_eq_none minusProgram_targets minusProgram_ranked fun s h₁ _ => pick_minus_of_ne (h s h₁)

theorem search_minus_eq {i j : Nat} {τ : Array (Option Nat)} (hij : i ≤ j) (hj : j < cs.size)
    (hbefore : ∀ x, i ≤ x → x < j → cs[x]? ≠ some '-')
    (hpick : Pick minusProgram cs 12 j (Array.replicate 4 none) (some τ)) :
    minusProgram.search cs i = some τ :=
  search_eq_some minusProgram_targets minusProgram_ranked hij (Nat.le_of_lt hj)
    (fun s h₁ h₂ => pick_minus_of_ne (hbefore s h₁ h₂)) hpick

end Program

end Regex

namespace Pattern

open Regex

/-- The pattern of the scripting language's minus rule: a lone minus, styled through group `1`,
or a run of minus signs. -/
def minusPattern : Pattern := ⟨"(-)(?:[^-]|$)|--+", 1, minusExpr, minusExpr.compile⟩

theorem reading_minus : (parsePattern "(-)(?:[^-]|$)|--+").map
    (fun p => (p.expr, p.tree.minLen, p.tree.automatonBound)) = .ok (minusExpr, some 1, 6236) := by
  cbv

theorem withGroup_minus : withGroup "(-)(?:[^-]|$)|--+" 1 = .ok minusPattern :=
  withGroup_of_reading rfl reading_minus (by decide) (by decide) (by decide)

theorem known_minus :
    ∀ parsed, parsePattern "(-)(?:[^-]|$)|--+" = .ok parsed → parsed.tree.minLen.isSome := by
  intro parsed h
  have hread := reading_minus
  rw [h] at hread
  simp only [Except.map, Except.ok.injEq, Prod.mk.injEq] at hread
  rw [hread.2.1]
  rfl

section Line

variable {t : String}

theorem findIn_minus_none {i : Nat} (hi : i ≤ (Subject.ofString t).chars.size)
    (h : ∀ j, i ≤ j → (Subject.ofString t).chars[j]? ≠ some '-') :
    minusPattern.findIn (Subject.ofString t) ((Subject.ofString t).byteAt i) = none := by
  have hle := Subject.byteAt_le_byteLength hi
  rw [findIn, if_neg (by simp only [Subject.byteLength_ofString]; omega),
    Subject.charIndex_byteAt hi]
  simp [minusPattern, compile_minusExpr, Program.search_minus_none h]

theorem findIn_minus_lone {i j : Nat} (hij : i ≤ j) (hj : j < (Subject.ofString t).chars.size)
    (hbefore : ∀ x, i ≤ x → x < j → (Subject.ofString t).chars[x]? ≠ some '-')
    (hs : (Subject.ofString t).chars[j]? = some '-')
    (hnext : (Subject.ofString t).chars[j + 1]? ≠ some '-') :
    minusPattern.findIn (Subject.ofString t) ((Subject.ofString t).byteAt i) =
      some ⟨((Subject.ofString t).byteAt j,
          (Subject.ofString t).byteAt (min (j + 2) (Subject.ofString t).chars.size)),
        some ((Subject.ofString t).byteAt j, (Subject.ofString t).byteAt (j + 1))⟩ := by
  have hi : i ≤ (Subject.ofString t).chars.size := by omega
  have hle := Subject.byteAt_le_byteLength hi
  rw [findIn, if_neg (by simp only [Subject.byteLength_ofString]; omega),
    Subject.charIndex_byteAt hi]
  simp only [minusPattern, compile_minusExpr]
  by_cases hend : j + 1 < (Subject.ofString t).chars.size
  · obtain ⟨c, hc⟩ : ∃ c, (Subject.ofString t).chars[j + 1]? = some c :=
      ⟨_, Array.getElem?_eq_getElem hend⟩
    have hne : c ≠ '-' := fun h => hnext (h ▸ hc)
    rw [Program.search_minus_eq hij hj hbefore (Program.pick_minus_lone hs hc hne),
      Nat.min_eq_left (by omega)]
    simp
  · rw [Program.search_minus_eq hij hj hbefore (Program.pick_minus_lone_end hs (by omega)),
      Nat.min_eq_right (by omega), show (Subject.ofString t).chars.size = j + 1 by omega]
    simp

theorem findIn_minus_run {i j k : Nat} (hij : i ≤ j)
    (hbefore : ∀ x, i ≤ x → x < j → (Subject.ofString t).chars[x]? ≠ some '-')
    (hjk : j + 2 ≤ k) (hrun : ∀ x, j ≤ x → x < k → (Subject.ofString t).chars[x]? = some '-')
    (hk : (Subject.ofString t).chars[k]? ≠ some '-') :
    minusPattern.findIn (Subject.ofString t) ((Subject.ofString t).byteAt i) =
      some ⟨((Subject.ofString t).byteAt j, (Subject.ofString t).byteAt k), none⟩ := by
  have hlast := hrun (k - 1) (by omega) (by omega)
  have hkn : k ≤ (Subject.ofString t).chars.size := by
    have := (Array.getElem?_eq_some_iff.1 hlast).1
    omega
  have hi : i ≤ (Subject.ofString t).chars.size := by omega
  have hle := Subject.byteAt_le_byteLength hi
  rw [findIn, if_neg (by simp only [Subject.byteLength_ofString]; omega),
    Subject.charIndex_byteAt hi]
  simp only [minusPattern, compile_minusExpr]
  rw [Program.search_minus_eq hij (by omega) hbefore (Program.pick_minus_run hjk hrun hk)]
  simp

end Line

end Pattern

/-- Whether character `j` of a line is a minus sign with no minus sign next to it. -/
def loneMinus (cs : Array Char) (j : Nat) : Bool :=
  cs[j]? == some '-' && (j == 0 || cs[j - 1]? != some '-') && cs[j + 1]? != some '-'

section LoneMinus

variable {cs : Array Char} {j : Nat}

theorem loneMinus_of (h : cs[j]? = some '-') (hprev : j = 0 ∨ cs[j - 1]? ≠ some '-')
    (hnext : cs[j + 1]? ≠ some '-') : loneMinus cs j = true := by
  simp only [loneMinus, Bool.and_eq_true, Bool.or_eq_true, beq_iff_eq, bne_iff_ne, ne_eq]
  exact ⟨⟨h, hprev⟩, hnext⟩

theorem loneMinus_eq_false_of_ne (h : cs[j]? ≠ some '-') : loneMinus cs j = false := by
  simp [loneMinus, h]

theorem loneMinus_eq_false_of_prev (hj : j ≠ 0) (h : cs[j - 1]? = some '-') :
    loneMinus cs j = false := by
  simp [loneMinus, h, hj]

theorem loneMinus_eq_false_of_next (h : cs[j + 1]? = some '-') : loneMinus cs j = false := by
  simp [loneMinus, h]

end LoneMinus

theorem range'_split {a m b : Nat} (h₁ : a ≤ m) (h₂ : m ≤ b) :
    List.range' a (b - a) = List.range' a (m - a) ++ List.range' m (b - m) := by
  rw [show b - a = (m - a) + (b - m) by omega, ← List.range'_append_1, show a + (m - a) = m by omega]

theorem filter_range'_eq_nil {q : Nat → Bool} {a b : Nat} (h : ∀ x, a ≤ x → x < b → q x = false) :
    (List.range' a (b - a)).filter q = [] :=
  List.filter_eq_nil_iff.2 fun x hx => by
    rw [List.mem_range'_1] at hx
    simp [h x hx.1 (by omega)]

/-! ## The spans of a rule, one search at a time -/

section Scan

open Pattern

/-- One search of rule `r` from character `x`, against where its spans start (`F`) and end (`E`):
it finds nothing and no span starts from `x` on, or it finds a match from `i` to `j` before which
only `i` may start a span, and which styles that span. -/
def Rule.ScanStep (r : Rule) (s : Subject) (F : Nat → Bool) (E : Nat → Nat) (Good : Nat → Prop)
    (x : Nat) : Prop :=
  (r.pattern.findIn s (s.byteAt x) = none ∧ ∀ y, x ≤ y → y < s.chars.size → F y = false) ∨
    ∃ i j styled, x ≤ i ∧ i < j ∧ j ≤ s.chars.size ∧ Good j ∧
      r.pattern.findIn s (s.byteAt x) = some ⟨(s.byteAt i, s.byteAt j), styled⟩ ∧
      (∀ y, x ≤ y → y < j → y ≠ i → F y = false) ∧
      r.styledSpan ⟨(s.byteAt i, s.byteAt j), styled⟩ =
        if F i then some ⟨s.byteAt i, s.byteAt (E i), r.style⟩ else none

/-- **The spans of a rule, read one search at a time.**  When every search from a position that
keeps `Good` is a `Rule.ScanStep`, the spans of the matches from `x` on that start outside quotes
are one over each character from `x` on where a span starts outside quotes, left to right.  The
induction is on what is left of the line, which each match shortens. -/
theorem Rule.spans_from_of_scanStep {r : Rule} {s : Subject} {F : Nat → Bool} {E : Nat → Nat}
    {Good : Nat → Prop} (hadv : r.pattern.Advances s)
    (hstep : ∀ x, x ≤ s.chars.size → Good x → r.ScanStep s F E Good x)
    (x : Nat) (hx : x ≤ s.chars.size) (hg : Good x) :
    ((r.pattern.plainMatchesFrom s (s.byteAt x)).filter fun m => !s.betweenQuotes m.whole.1).filterMap
        r.styledSpan =
      ((List.range' x (s.chars.size - x)).filter fun y => F y && !s.betweenQuotes (s.byteAt y)).map
        fun y => ⟨s.byteAt y, s.byteAt (E y), r.style⟩ := by
  rcases hstep x hx hg with ⟨hnone, hF⟩ | ⟨i, j, styled, hxi, hij, hjn, hgj, hfind, hF, hspan⟩
  · -- the search finds nothing, and no span starts
    rw [plainMatchesFrom_of_none hnone, filter_range'_eq_nil fun y h₁ h₂ => by simp [hF y h₁ h₂]]
    rfl
  · -- of the positions before `j`, only `i` may start a span
    have hhead : (List.range' x (j - x)).filter (fun y => F y && !s.betweenQuotes (s.byteAt y)) =
        if (F i && !s.betweenQuotes (s.byteAt i)) = true then [i] else [] := by
      rw [range'_split hxi hij.le, List.filter_append,
        filter_range'_eq_nil fun y h₁ h₂ => by simp [hF y h₁ (by omega) (by omega)],
        List.nil_append, show j - i = (j - (i + 1)) + 1 by omega, List.range'_succ,
        List.filter_cons, filter_range'_eq_nil fun y h₁ h₂ => by simp [hF y (by omega) h₂ (by omega)]]
    rw [plainMatchesFrom_eq hadv, hfind, range'_split (m := j) (by omega) hjn, List.filter_append,
      hhead, List.map_append, ← Rule.spans_from_of_scanStep hadv hstep j hjn hgj, List.filter_cons]
    cases hq : s.betweenQuotes (s.byteAt i) <;> cases hFi : F i <;> simp [hFi, hspan]
termination_by s.chars.size - x
decreasing_by omega

end Scan

section Line

open Subject Pattern

variable {t : String} (st : Style)

theorem scanStep_minus {i : Nat} (hi : i ≤ (ofString t).chars.size)
    (hb : i = 0 ∨ (ofString t).chars[i - 1]? ≠ some '-' ∨ (ofString t).chars[i]? ≠ some '-') :
    Rule.ScanStep ⟨minusPattern, st⟩ (ofString t) (loneMinus (ofString t).chars) (· + 1)
      (fun i => i = 0 ∨ (ofString t).chars[i - 1]? ≠ some '-' ∨ (ofString t).chars[i]? ≠ some '-')
      i := by
  by_cases hex : ∃ j, i ≤ j ∧ (ofString t).chars[j]? = some '-'
  · -- the search stops at the first minus sign from `i` on
    obtain ⟨j, ⟨hij, hs⟩, hmin⟩ : ∃ j, (i ≤ j ∧ (ofString t).chars[j]? = some '-') ∧
        ∀ x < j, ¬(i ≤ x ∧ (ofString t).chars[x]? = some '-') :=
      ⟨Nat.find hex, Nat.find_spec hex, fun x hx => Nat.find_min hex hx⟩
    have hbefore : ∀ x, i ≤ x → x < j → (ofString t).chars[x]? ≠ some '-' :=
      fun x h₁ h₂ h => hmin x h₂ ⟨h₁, h⟩
    have hj : j < (ofString t).chars.size := (Array.getElem?_eq_some_iff.1 hs).1
    by_cases hn : (ofString t).chars[j + 1]? = some '-'
    · -- a run of minus signs from `j` up to `k`: one match, styling nothing
      obtain ⟨k, ⟨hjk, hk⟩, hkmin⟩ : ∃ k, (j + 1 < k ∧ (ofString t).chars[k]? ≠ some '-') ∧
          ∀ x < k, ¬(j + 1 < x ∧ (ofString t).chars[x]? ≠ some '-') :=
        have hend : ∃ k, j + 1 < k ∧ (ofString t).chars[k]? ≠ some '-' :=
          ⟨(ofString t).chars.size + 1, by omega, by simp⟩
        ⟨Nat.find hend, Nat.find_spec hend, fun x hx => Nat.find_min hend hx⟩
      have hrun : ∀ x, j ≤ x → x < k → (ofString t).chars[x]? = some '-' := by
        intro x h₁ h₂
        rcases Nat.lt_trichotomy x (j + 1) with h | h | h
        · rwa [show x = j by omega]
        · rwa [h]
        · by_contra hx
          exact hkmin x h₂ ⟨h, hx⟩
      have hkn : k ≤ (ofString t).chars.size := by
        have := (Array.getElem?_eq_some_iff.1 (hrun (k - 1) (by omega) (by omega))).1
        omega
      refine .inr ⟨j, k, none, hij, by omega, hkn, .inr (.inr hk),
        findIn_minus_run hij hbefore (by omega) hrun hk, fun x h₁ h₂ _ => ?_, ?_⟩
      · -- no minus sign of the run stands alone
        rcases Nat.lt_or_ge x j with h | h
        · exact loneMinus_eq_false_of_ne (hbefore x h₁ h)
        · rcases Nat.eq_or_lt_of_le h with rfl | h
          · exact loneMinus_eq_false_of_next hn
          · exact loneMinus_eq_false_of_prev (by omega) (hrun (x - 1) (by omega) (by omega))
      · simp [Rule.styledSpan, loneMinus_eq_false_of_next hn]
    · -- a lone minus sign at `j`: one match over it and the character after it, styling it
      have hfirst : j = 0 ∨ (ofString t).chars[j - 1]? ≠ some '-' := by
        rcases Nat.eq_or_lt_of_le hij with rfl | hlt
        · rcases hb with h | h | h
          · exact .inl h
          · exact .inr h
          · exact absurd hs h
        · exact .inr (hbefore (j - 1) (by omega) (by omega))
      have hk : min (j + 2) (ofString t).chars.size = j + 2 ∨
          min (j + 2) (ofString t).chars.size = j + 1 := by omega
      have hnext : min (j + 2) (ofString t).chars.size = 0 ∨
          (ofString t).chars[min (j + 2) (ofString t).chars.size - 1]? ≠ some '-' ∨
          (ofString t).chars[min (j + 2) (ofString t).chars.size]? ≠ some '-' := by
        rcases hk with h | h
        · exact .inr (.inl (by rwa [h]))
        · exact .inr (.inr (by rw [h]; exact hn))
      refine .inr ⟨j, min (j + 2) (ofString t).chars.size, _, hij, by omega, Nat.min_le_right _ _,
        hnext, findIn_minus_lone hij hj hbefore hs hn, fun x h₁ h₂ hne => ?_, ?_⟩
      · rcases Nat.lt_or_gt_of_ne hne with h | h
        · exact loneMinus_eq_false_of_ne (hbefore x h₁ h)
        · rw [show x = j + 1 by omega]
          exact loneMinus_eq_false_of_ne hn
      · have hlt := byteAt_lt_byteAt (Nat.lt_succ_self j) (show j + 1 ≤ (ofString t).chars.size by omega)
        simp [Rule.styledSpan, loneMinus_of hs hfirst hn, hlt]
  · -- no minus sign from `i` on: the search finds nothing
    have hnone : ∀ j, i ≤ j → (ofString t).chars[j]? ≠ some '-' := fun j h₁ h₂ => hex ⟨j, h₁, h₂⟩
    exact .inl ⟨findIn_minus_none hi hnone, fun x h₁ _ => loneMinus_eq_false_of_ne (hnone x h₁)⟩

theorem minusSpans_from (i : Nat) (hi : i ≤ (ofString t).chars.size)
    (hb : i = 0 ∨ (ofString t).chars[i - 1]? ≠ some '-' ∨ (ofString t).chars[i]? ≠ some '-') :
    ((minusPattern.plainMatchesFrom (ofString t) ((ofString t).byteAt i)).filter
        fun m => !(ofString t).betweenQuotes m.whole.1).filterMap (Rule.styledSpan ⟨minusPattern, st⟩) =
      ((List.range' i ((ofString t).chars.size - i)).filter fun j =>
          loneMinus (ofString t).chars j && !(ofString t).betweenQuotes ((ofString t).byteAt j)).map
        fun j => ⟨(ofString t).byteAt j, (ofString t).byteAt (j + 1), st⟩ :=
  Rule.spans_from_of_scanStep (advances_of_withGroup withGroup_minus known_minus t)
    (fun _ hx hb => scanStep_minus st hx hb) i hi hb

/-- **The spans of the minus rule over a line:** one over each lone minus sign that stands
outside quotes, left to right. -/
theorem spans_minusRule :
    Rule.spans ⟨minusPattern, st⟩ (ofString t) =
      ((List.range (ofString t).chars.size).filter fun j =>
          loneMinus (ofString t).chars j && !betweenQuotes t ((ofString t).byteAt j)).map
        fun j => ⟨(ofString t).byteAt j, (ofString t).byteAt (j + 1), st⟩ := by
  have hadv := advances_of_withGroup withGroup_minus known_minus t
  have hall := minusSpans_from (t := t) st 0 (Nat.zero_le _) (.inl rfl)
  rw [byteAt_zero, ← matchesFrom_eq_filter hadv, Nat.sub_zero, ← List.range_eq_range'] at hall
  rw [Rule.spans, quoteAwareMatches, hall]
  congr 1
  refine List.filter_congr fun j hj => ?_
  rw [betweenQuotes_byteAt (Nat.le_of_lt (List.mem_range.1 hj))]

end Line

end Highlight
