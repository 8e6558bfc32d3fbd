import Mathlib
import Highlight.Proofs.LeftmostFirst
import Highlight.Proofs.RangeSearch
import Highlight.Proofs.QuoteAware

/-!
# The first match from a position

The search answers the depth-first outcome of the first start that has one
(`Program.search_cases`).  For a compiled expression that outcome is a traversal of the
expression (`Expr.pick_whole`), and a start with no traversal has none: so the search finds the
first start from which the expression can be traversed and the depth-first search succeeds
(`Expr.search_eq_some_of_first`).  A greedy loop over a class runs to the end of the run
(`Program.Pick.loop`), which is how the outcomes of concrete patterns are derived.

On a line, the quote-aware search then skips candidates that start between quotes and end no
later than the first candidate outside them (`Pattern.findNext_of_skipped`), and finds nothing
when every traversal from a position on starts between quotes
(`Pattern.matchesFrom_eq_nil_of_inside`).
-/

namespace Highlight.Regex

namespace Program

variable {p : Program} {cs : Array Char}

theorem Pick.reaches {pc pos : Nat} {σ τ : Array (Option Nat)}
    (h : Pick p cs pc pos σ (some τ)) :
    ∃ pc' pos', p.insts[pc']? = some .accept ∧
      Reaches p.insts cs ⟨pc, pos, σ⟩ ⟨pc', pos', τ⟩ := by
  generalize hr : some τ = r at h
  induction h with
  | accept hi =>
    cases hr
    exact ⟨_, _, hi, Reaches.refl _⟩
  | read hi hc hin _ ih =>
    obtain ⟨pc', pos', hacc, n, hs⟩ := ih hr
    exact ⟨pc', pos', hacc, n + 1, .step (by simp [Step, hi, hc, hin]) hs⟩
  | noRead | fails | missing => cases hr
  | first hi _ ih =>
    obtain ⟨pc', pos', hacc, n, hs⟩ := ih hr
    exact ⟨pc', pos', hacc, n + 1, .step (by simp [Step, hi]) hs⟩
  | second hi _ _ _ ih =>
    obtain ⟨pc', pos', hacc, n, hs⟩ := ih hr
    exact ⟨pc', pos', hacc, n + 1, .step (by simp [Step, hi]) hs⟩
  | save hi _ ih | jump hi _ ih =>
    obtain ⟨pc', pos', hacc, n, hs⟩ := ih hr
    exact ⟨pc', pos', hacc, n + 1, .step (by simp [Step, hi]) hs⟩
  | holds hi hl _ ih =>
    obtain ⟨pc', pos', hacc, n, hs⟩ := ih hr
    exact ⟨pc', pos', hacc, n + 1, .step (by simp [Step, hi, hl]) hs⟩

/-- One round of ranking: each instruction one above the highest of its quiet targets. -/
def rankRound (p : Program) (r : List Nat) : List Nat :=
  p.insts.toList.map fun i => (i.quietTargets.map fun t => r.getD t 0 + 1).foldr max 0

/-- The length of the longest chain of quiet steps from each instruction, as long as no such
chain comes back: as many rounds as there are instructions. -/
def quietRank (p : Program) : Nat → Nat :=
  fun pc => (p.rankRound^[p.insts.size] (List.replicate p.insts.size 0)).getD pc 0

/-- **A greedy loop over a class runs to the end of the run.**  From the loop's split, over a run
of characters of the class up to a position where none is, the depth-first answer is the one of
the loop's exit there, when that one answers. -/
theorem Pick.loop {l e k pos stop : Nat} {rs : Array (Nat × Nat)} {σ τ : Array (Option Nat)}
    (hl : p.insts[l]? = some (.split e k)) (he : p.insts[e]? = some (.char rs l))
    (hrun : ∀ x, pos ≤ x → x < stop →
      ∃ ch, cs[x]? = some ch ∧ CharClass.searchRanges rs ch.toNat = true)
    (hstop : ∀ ch, cs[stop]? = some ch → CharClass.searchRanges rs ch.toNat = false)
    (hk : Pick p cs k stop σ (some τ)) (hps : pos ≤ stop) : Pick p cs l pos σ (some τ) := by
  -- induction on what is left of the run
  suffices H : ∀ d x, stop - x = d → pos ≤ x → x ≤ stop → Pick p cs l x σ (some τ) from
    H _ pos rfl le_rfl hps
  intro d
  induction d with
  | zero =>
    intro x hd hx hxs
    rw [show x = stop by omega]
    exact .second hl (.noRead he hstop) hk
  | succ d ih =>
    intro x hd hx hxs
    obtain ⟨ch, hch, hin⟩ := hrun x hx (by omega)
    exact .first hl (.read he hch hin (ih (x + 1) (by omega) (by omega) (by omega)))

section Ranked

variable {f : Nat → Nat} (hT : p.Targets) (hR : p.Ranked f)
include hT hR

/-- **The search answers the depth-first outcome of the first start that has one**, or nothing
when no start from `start` to the end of the text has one. -/
theorem search_cases (start : Nat) :
    (∃ j τ, start ≤ j ∧ j ≤ cs.size ∧
      (∀ s, start ≤ s → s < j → Pick p cs p.start s (Array.replicate p.slots none) none) ∧
      Pick p cs p.start j (Array.replicate p.slots none) (some τ) ∧ p.search cs start = some τ) ∨
    ((∀ s, start ≤ s → s ≤ cs.size → Pick p cs p.start s (Array.replicate p.slots none) none) ∧
      p.search cs start = none) := by
  classical
  -- every start within the text has an outcome, so one without an answer has `none`
  have hnone : ∀ s, s ≤ cs.size → (¬ ∃ τ, Pick p cs p.start s (Array.replicate p.slots none)
      (some τ)) → Pick p cs p.start s (Array.replicate p.slots none) none := by
    intro s hs hno
    obtain ⟨o, ho⟩ := exists_pick hT hR (Array.replicate p.slots none) (p.start, s) hT.1 hs
    cases o with
    | none => exact ho
    | some τ => exact absurd ⟨τ, ho⟩ hno
  by_cases hex : ∃ j, start ≤ j ∧ j ≤ cs.size ∧
      ∃ τ, Pick p cs p.start j (Array.replicate p.slots none) (some τ)
  · obtain ⟨hj₁, hj₂, τ, hτ⟩ := Nat.find_spec hex
    have hbefore : ∀ s, start ≤ s → s < Nat.find hex →
        Pick p cs p.start s (Array.replicate p.slots none) none := fun s h₁ h₂ =>
      hnone s (by omega) fun hs' => Nat.find_min hex h₂ ⟨h₁, by omega, hs'⟩
    exact .inl ⟨Nat.find hex, τ, hj₁, hj₂, hbefore, hτ, search_eq_some hT hR hj₁ hj₂ hbefore hτ⟩
  · have hall : ∀ s, start ≤ s → s ≤ cs.size →
        Pick p cs p.start s (Array.replicate p.slots none) none := fun s h₁ h₂ =>
      hnone s h₂ fun hs' => hex ⟨s, h₁, h₂, hs'⟩
    exact .inr ⟨hall, search_eq_none hT hR hall⟩

end Ranked

end Program

namespace Expr

variable {cs : Array Char}

theorem traverse_of_pick {r : Expr} {s : Nat} {τ : Array (Option Nat)}
    (h : Program.Pick r.compile cs r.compile.start s (Array.replicate r.compile.slots none)
      (some τ)) :
    ∃ j, Traverse cs (.capture 0 r) s (Array.replicate (2 * r.groupCount) none) j τ := by
  obtain ⟨pc, pos, hacc, hreach⟩ := h.reaches
  exact ⟨pos, by simpa [Expr.compile] using traverse_of_reaches hacc hreach⟩

theorem capture_zero_slots {r : Expr} (hr : r.hasGroup 0 = false) {s j : Nat}
    {out : Array (Option Nat)}
    (h : Traverse cs (.capture 0 r) s (Array.replicate (2 * r.groupCount) none) j out) :
    ∃ σ τ, Traverse cs r s σ j τ ∧ out.getD 0 none = some s ∧ out.getD 1 none = some j := by
  cases h with
  | capture hinner =>
    rename_i τ
    have hτ : τ.size = 2 * r.groupCount := by simpa using hinner.size_eq
    have hcount : 0 < r.groupCount := Nat.succ_pos _
    have hopen : τ[0]? = some (some s) := by
      rcases hinner.slots (by simp) 0 with hk | ⟨hg, -⟩
      · rw [hk.1, Array.getElem?_setIfInBounds_self_of_lt (by simp; omega)]
      · rw [hr] at hg
        cases hg
    refine ⟨_, τ, hinner, ?_, ?_⟩
    · rw [Array.getD_eq_getD_getElem?, Array.getElem?_setIfInBounds_ne (by omega), hopen]
      rfl
    · rw [Array.getD_eq_getD_getElem?, Array.getElem?_setIfInBounds_self_of_lt (by omega)]
      rfl

/-- **A depth-first answer is a traversal from the start.**  The answer of a compiled expression
that records no group `0` of its own puts group `0` around a traversal of the expression. -/
theorem pick_whole {r : Expr} (hr : r.hasGroup 0 = false) {s : Nat} {τ : Array (Option Nat)}
    (h : Program.Pick r.compile cs r.compile.start s (Array.replicate r.compile.slots none)
      (some τ)) :
    ∃ j σ ρ, Traverse cs r s σ j ρ ∧ τ.getD 0 none = some s ∧ τ.getD 1 none = some j := by
  obtain ⟨j, htr⟩ := traverse_of_pick h
  obtain ⟨σ, ρ, hinner, h0, h1⟩ := capture_zero_slots hr htr
  exact ⟨j, σ, ρ, hinner, h0, h1⟩

section Ranked

variable {r : Expr} {f : Nat → Nat} (hT : r.compile.Targets) (hR : r.compile.Ranked f)
include hT hR

theorem pick_none_of_not_traverse {s : Nat} (hs : s ≤ cs.size)
    (h : ∀ j τ, ¬ Traverse cs (.capture 0 r) s (Array.replicate (2 * r.groupCount) none) j τ) :
    Program.Pick r.compile cs r.compile.start s (Array.replicate r.compile.slots none) none := by
  obtain ⟨o, ho⟩ := Program.exists_pick hT hR (Array.replicate r.compile.slots none)
    (r.compile.start, s) hT.1 hs
  cases o with
  | none => exact ho
  | some τ =>
    obtain ⟨j, hj⟩ := traverse_of_pick ho
    exact absurd hj (h j τ)

/-- **The search answers at the first start it can.**  When the expression has no traversal from
any start before `j` and the depth-first search answers `τ` at `j`, so does the search. -/
theorem search_eq_some_of_first {start j : Nat} {τ : Array (Option Nat)} (hsj : start ≤ j)
    (hj : j ≤ cs.size)
    (hbefore : ∀ s, start ≤ s → s < j → ∀ k ρ,
      ¬ Traverse cs (.capture 0 r) s (Array.replicate (2 * r.groupCount) none) k ρ)
    (hat : Program.Pick r.compile cs r.compile.start j (Array.replicate r.compile.slots none)
      (some τ)) :
    r.compile.search cs start = some τ :=
  Program.search_eq_some hT hR hsj hj
    (fun s h₁ h₂ => pick_none_of_not_traverse hT hR (by omega) (hbefore s h₁ h₂)) hat

end Ranked

theorem Traverse.rep_set {c : CharClass} {lo : Nat} {hi : Option Nat} {greedy : Bool} {i j : Nat}
    {σ τ : Array (Option Nat)} (h : Traverse cs (.rep lo hi greedy (.set c)) i σ j τ) :
    τ = σ ∧ i ≤ j ∧ ∀ x, i ≤ x → x < j →
      ∃ ch, cs[x]? = some ch ∧ CharClass.searchRanges c.ranges.toArray ch.toNat = true := by
  generalize he : Expr.rep lo hi greedy (.set c) = e at h
  induction h generalizing lo with
  | repDone => exact ⟨rfl, le_rfl, fun x h₁ h₂ => absurd h₂ (by omega)⟩
  | repMore hr _ _ ihrest =>
    cases he
    cases hr with
    | set hch hin =>
      obtain ⟨rfl, hle, hall⟩ := ihrest rfl
      refine ⟨rfl, by omega, fun x h₁ h₂ => ?_⟩
      rcases Nat.eq_or_lt_of_le h₁ with rfl | hlt
      · exact ⟨_, hch, hin⟩
      · exact hall x hlt h₂
  | _ => cases he

theorem Traverse.le_of_rep_set {c : CharClass} {lo : Nat} {hi : Option Nat} {greedy : Bool}
    {i j p : Nat} {σ τ : Array (Option Nat)} (h : Traverse cs (.rep lo hi greedy (.set c)) i σ j τ)
    (hip : i ≤ p)
    (hp : ∀ ch, cs[p]? = some ch → CharClass.searchRanges c.ranges.toArray ch.toNat = false) :
    j ≤ p := by
  obtain ⟨-, -, hall⟩ := h.rep_set
  by_contra hlt
  obtain ⟨ch, hch, hin⟩ := hall p hip (by omega)
  rw [hp ch hch] at hin
  cases hin

theorem Traverse.set_inv {c : CharClass} {i j : Nat} {σ τ : Array (Option Nat)}
    (h : Traverse cs (.set c) i σ j τ) :
    j = i + 1 ∧ τ = σ ∧ ∃ ch, cs[i]? = some ch ∧ CharClass.searchRanges c.ranges.toArray ch.toNat = true := by
  cases h with
  | set hch hin => exact ⟨rfl, rfl, _, hch, hin⟩

end Expr

end Highlight.Regex

namespace Highlight

namespace Subject

theorem le_charIndex {t : String} {x y : Nat} (hx : x ≤ (ofString t).chars.size)
    (h : (ofString t).byteAt x ≤ y) : x ≤ (ofString t).charIndex y := by
  obtain ⟨h₁, -, h₃⟩ := charIndex_spec_ofString t y
  by_contra hlt
  have hlt' : (ofString t).charIndex y < x := by omega
  have := h₃ (by omega)
  have := byteAt_lt_byteAt hlt' hx
  omega

@[simp] theorem getElem?_chars_ofString (t : String) (i : Nat) :
    (ofString t).chars[i]? = t.toList[i]? := by
  simp [ofString]

theorem betweenQuotes_byteAt_count {t : String} {a : Nat} (ha : a ≤ (ofString t).chars.size) :
    (ofString t).betweenQuotes ((ofString t).byteAt a) = ((t.toList.take a).count '"' % 2 == 1) := by
  rw [betweenQuotes_byteAt ha, byteAt_ofString (by simpa using ha), betweenQuotes_byteOffset]

end Subject

namespace Pattern

open Regex Subject

variable {p : Pattern} {t : String}

theorem findIn_start (hp : p.Compiled) {start : Nat} {m : Match}
    (h : p.findIn (ofString t) start = some m) :
    ∃ a j σ τ, (ofString t).charIndex start ≤ a ∧
      m.whole = ((ofString t).byteAt a, (ofString t).byteAt j) ∧
      Expr.Traverse (ofString t).chars p.regex a σ j τ := by
  obtain ⟨out, a', j', -, hsearch, h0', h1', hwhole, -⟩ := findIn_eq_some h
  rw [hp.program] at hsearch
  obtain ⟨a, j, ha, -, htr⟩ := Expr.traverse_of_search hsearch
  obtain ⟨σ, τ, hinner, h0, h1⟩ := Expr.capture_zero_slots hp.noWhole htr
  obtain rfl : a' = a := Option.some.inj (h0'.symm.trans h0)
  obtain rfl : j' = j := Option.some.inj (h1'.symm.trans h1)
  exact ⟨a', j', σ, τ, ha, hwhole, hinner⟩

theorem findIn_of_search (hp : p.Compiled) {x a b : Nat} {out : Array (Option Nat)}
    (hx : x ≤ (ofString t).chars.size) (h : p.regex.compile.search (ofString t).chars x = some out)
    (h0 : out.getD 0 none = some a) (h1 : out.getD 1 none = some b) :
    ∃ styled, p.findIn (ofString t) ((ofString t).byteAt x) =
      some ⟨((ofString t).byteAt a, (ofString t).byteAt b), styled⟩ := by
  have hle := byteAt_le_byteLength hx
  rw [findIn, if_neg (by simp only [byteLength_ofString]; omega), charIndex_byteAt hx,
    hp.program, h]
  simp [h0, h1]

theorem findIn_congr {x a : Nat} (hx : x ≤ (ofString t).chars.size)
    (ha : a ≤ (ofString t).chars.size)
    (h : p.program.search (ofString t).chars x = p.program.search (ofString t).chars a) :
    p.findIn (ofString t) ((ofString t).byteAt x) = p.findIn (ofString t) ((ofString t).byteAt a) := by
  have hlx := byteAt_le_byteLength hx
  have hla := byteAt_le_byteLength ha
  rw [findIn, findIn, if_neg (by simp only [byteLength_ofString]; omega),
    if_neg (by simp only [byteLength_ofString]; omega), charIndex_byteAt hx, charIndex_byteAt ha, h]

/-- **Skipped candidates.**  When every traversal of the pattern from a start between `x` and `a`
starts between quotes and ends by `a`, and the depth-first search succeeds at `a`, outside
quotes, the quote-aware search from `x` finds what a search from `a` finds. -/
theorem findNext_of_skipped (hp : p.Compiled) {f : Nat → Nat} (hT : p.regex.compile.Targets)
    (hR : p.regex.compile.Ranked f) (hn : p.regex.nullable = false) {x a : Nat}
    {τ : Array (Option Nat)} (hxa : x ≤ a) (ha : a ≤ (ofString t).chars.size)
    (hskip : ∀ b, x ≤ b → b < a → ∀ k σ ρ, Expr.Traverse (ofString t).chars p.regex b σ k ρ →
      (ofString t).betweenQuotes ((ofString t).byteAt b) = true ∧ k ≤ a)
    (hat : Program.Pick p.regex.compile (ofString t).chars p.regex.compile.start a
      (Array.replicate p.regex.compile.slots none) (some τ))
    (hout : (ofString t).betweenQuotes ((ofString t).byteAt a) = false) :
    p.findNext (ofString t) ((ofString t).byteAt x) = p.findIn (ofString t) ((ofString t).byteAt a) := by
  have hx : x ≤ (ofString t).chars.size := by omega
  rcases Program.search_cases hT hR x with ⟨j, ρ, hxj, hj, hnone, hpick, hsearch⟩ | ⟨hnone, -⟩
  · rcases Nat.lt_trichotomy j a with hja | rfl | hja
    · -- the first candidate lies between quotes and ends by `a`: skip it
      obtain ⟨k, σ', ρ', htr, h0, h1⟩ := Expr.pick_whole hp.noWhole hpick
      obtain ⟨hin, hka⟩ := hskip j hxj hja k σ' ρ' htr
      have hjk := htr.lt_of_nullable_eq_false hn
      obtain ⟨styled, hfind⟩ := findIn_of_search hp hx hsearch h0 h1
      have hgrow : (ofString t).byteAt x < (ofString t).byteAt k :=
        byteAt_lt_byteAt (by omega) (by omega)
      have hend := byteAt_le_byteLength (s := t) (i := k) (by omega)
      rw [findNext, hfind]
      simp only [hin, Bool.not_true, Bool.false_eq_true, if_false]
      rw [dif_pos ⟨hgrow, by simpa using hend⟩]
      exact findNext_of_skipped hp hT hR hn hka ha
        (fun b h₁ h₂ => hskip b (by omega) h₂) hat hout
    · -- the first candidate is the one at `a`
      have hsame : p.regex.compile.search (ofString t).chars j = some ρ :=
        Program.search_eq_some hT hR le_rfl ha (fun s h₁ h₂ => absurd h₂ (by omega)) hpick
      obtain ⟨k, -, -, -, h0, h1⟩ := Expr.pick_whole hp.noWhole hpick
      obtain ⟨styled, hfind⟩ := findIn_of_search hp ha hsame h0 h1
      rw [findNext, findIn_congr hx ha (by rw [hp.program, hsearch, hsame]), hfind]
      simp [hout]
    · exact absurd (Program.Pick.unique (hnone a hxa hja) hat) (by simp)
  · exact absurd (Program.Pick.unique (hnone a hxa ha) hat) (by simp)
termination_by a - x
decreasing_by all_goals omega

theorem matchesFrom_of_findNext {s : Subject} {start : Nat} {m : Match}
    (h : p.findNext s start = some m) (hg : start < m.whole.2 ∧ m.whole.2 ≤ s.byteLength) :
    p.matchesFrom s start = m :: p.matchesFrom s m.whole.2 := by
  rw [matchesFrom, h]
  simp only [dif_pos hg]

theorem mem_plainMatchesFrom_ge {s : Subject} {start : Nat} {m : Match}
    (hm : m ∈ p.plainMatchesFrom s start) : ∃ x, start ≤ x ∧ p.findIn s x = some m := by
  fun_induction p.plainMatchesFrom s start with
  | case1 => cases hm
  | case2 start m' hsome hg ih =>
    rcases List.mem_cons.1 hm with rfl | hm
    · exact ⟨start, le_rfl, hsome⟩
    · obtain ⟨x, hx, hfind⟩ := ih hm
      exact ⟨x, by omega, hfind⟩
  | case3 start m' hsome hg =>
    rw [List.mem_singleton.1 hm]
    exact ⟨start, le_rfl, hsome⟩

theorem findNext_eq_none_of_inside (hp : p.Compiled) {x : Nat}
    (hx : x ≤ (ofString t).chars.size)
    (h : ∀ b, x ≤ b → ∀ k σ ρ, Expr.Traverse (ofString t).chars p.regex b σ k ρ →
      (ofString t).betweenQuotes ((ofString t).byteAt b) = true) :
    p.findNext (ofString t) ((ofString t).byteAt x) = none := by
  rw [findNext_eq_find?, List.find?_eq_none]
  intro m hm
  obtain ⟨y, hy, hfind⟩ := mem_plainMatchesFrom_ge hm
  obtain ⟨b, k, σ, ρ, hb, hwhole, htr⟩ := findIn_start hp hfind
  rw [hwhole, h b (Nat.le_trans (le_charIndex hx hy) hb) k σ ρ htr]
  decide

/-- **Nothing outside quotes.**  When every traversal of the pattern from a character at or after
`x` starts between quotes, the quote-aware search from `x` finds nothing. -/
theorem matchesFrom_eq_nil_of_inside (hp : p.Compiled) {x : Nat}
    (hx : x ≤ (ofString t).chars.size)
    (h : ∀ b, x ≤ b → ∀ k σ ρ, Expr.Traverse (ofString t).chars p.regex b σ k ρ →
      (ofString t).betweenQuotes ((ofString t).byteAt b) = true) :
    p.matchesFrom (ofString t) ((ofString t).byteAt x) = [] := by
  rw [matchesFrom, findNext_eq_none_of_inside hp hx h]

end Pattern

end Highlight
