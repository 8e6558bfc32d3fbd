import Mathlib
import Highlight.Proofs.Completeness

/-!
# What a traversal reads

Three facts about the characters a traversal reads, each read off the expression alone, with no
search:

* `Expr.Within P`: every class of the expression admits only characters satisfying `P`, so every
  character a traversal reads satisfies `P` (`Expr.Traverse.within`), and a traversal that starts
  before a character failing `P` stops there (`Expr.Traverse.le_of_within`);
* `Expr.Leads P`: the expression reads a character first, and it satisfies `P`
  (`Expr.Traverse.leads`);
* `Expr.Needs P`: every traversal reads some character satisfying `P` (`Expr.Traverse.needs`).

On a line these settle most rules of a grammar at once: a rule whose expression leads with a
character that appears nowhere outside quotes finds nothing (`Pattern.matchesFrom_eq_nil_of_leads`),
and so does one that needs such a character and cannot read a quote on the way to it
(`Pattern.matchesFrom_eq_nil_of_needs`).
-/

namespace Highlight.Regex

namespace Expr

/-- Every character that a class of the expression admits satisfies `P`. -/
def Within (P : Char → Prop) : Expr → Prop
  | .empty | .look _ => True
  | .set c => ∀ ch : Char, CharClass.searchRanges c.ranges.toArray ch.toNat = true → P ch
  | .cat a b | .alt a b => a.Within P ∧ b.Within P
  | .rep _ _ _ r | .capture _ r => r.Within P

/-- The expression reads a character first, and every character it may read first satisfies
`P`. -/
def Leads (P : Char → Prop) : Expr → Prop
  | .empty | .look _ => False
  | .set c => ∀ ch : Char, CharClass.searchRanges c.ranges.toArray ch.toNat = true → P ch
  | .cat a _ => a.Leads P
  | .alt a b => a.Leads P ∧ b.Leads P
  | .rep lo _ _ r => 0 < lo ∧ r.Leads P
  | .capture _ r => r.Leads P

/-- Every traversal of the expression reads some character satisfying `P`. -/
def Needs (P : Char → Prop) : Expr → Prop
  | .empty | .look _ => False
  | .set c => ∀ ch : Char, CharClass.searchRanges c.ranges.toArray ch.toNat = true → P ch
  | .cat a b => a.Needs P ∨ b.Needs P
  | .alt a b => a.Needs P ∧ b.Needs P
  | .rep lo _ _ r => 0 < lo ∧ r.Needs P
  | .capture _ r => r.Needs P

variable {cs : Array Char} {P : Char → Prop} {r : Expr} {i j : Nat} {σ τ : Array (Option Nat)}

theorem Traverse.within (h : Traverse cs r i σ j τ) (hr : r.Within P) {x : Nat} (h₁ : i ≤ x)
    (h₂ : x < j) : ∃ ch, cs[x]? = some ch ∧ P ch := by
  induction h with
  | empty | look | repDone => omega
  | @set c i σ ch hch hin =>
    obtain rfl : x = i := by omega
    exact ⟨_, hch, hr _ hin⟩
  | @cat a b i σ j ρ k τ ha hb iha ihb =>
    rcases Nat.lt_or_ge x j with hx | hx
    · exact iha hr.1 h₁ hx
    · exact ihb hr.2 hx h₂
  | altLeft _ ih => exact ih hr.1 h₁ h₂
  | altRight _ ih => exact ih hr.2 h₁ h₂
  | @repMore lo hi greedy r i σ j ρ k τ hone hrest ihone ihrest =>
    rcases Nat.lt_or_ge x j with hx | hx
    · exact ihone hr h₁ hx
    · exact ihrest hr hx h₂
  | capture _ ih => exact ih hr h₁ h₂

/-- **A barrier.**  A traversal that starts at or before a character that no class of the
expression admits ends there at the latest. -/
theorem Traverse.le_of_within (h : Traverse cs r i σ j τ) (hr : r.Within P) {x : Nat}
    (hix : i ≤ x) (hx : ∀ ch, cs[x]? = some ch → ¬ P ch) : j ≤ x := by
  by_contra hlt
  obtain ⟨ch, hch, hP⟩ := h.within hr hix (by omega)
  exact hx ch hch hP

theorem Traverse.leads (h : Traverse cs r i σ j τ) (hr : r.Leads P) :
    ∃ ch, cs[i]? = some ch ∧ P ch := by
  induction h with
  | empty | look => exact hr.elim
  | set hch hin => exact ⟨_, hch, hr _ hin⟩
  | cat _ _ iha => exact iha hr
  | altLeft _ ih => exact ih hr.1
  | altRight _ ih => exact ih hr.2
  | repDone => exact absurd hr.1 (Nat.lt_irrefl 0)
  | repMore _ _ ihone => exact ihone hr.2
  | capture _ ih => exact ih hr

theorem Traverse.needs (h : Traverse cs r i σ j τ) (hr : r.Needs P) :
    ∃ x, i ≤ x ∧ x < j ∧ ∃ ch, cs[x]? = some ch ∧ P ch := by
  induction h with
  | empty | look => exact hr.elim
  | set hch hin => exact ⟨_, le_rfl, Nat.lt_succ_self _, _, hch, hr _ hin⟩
  | cat ha hb iha ihb =>
    rcases hr with hr | hr
    · obtain ⟨x, h₁, h₂, hx⟩ := iha hr
      exact ⟨x, h₁, Nat.lt_of_lt_of_le h₂ hb.le, hx⟩
    · obtain ⟨x, h₁, h₂, hx⟩ := ihb hr
      exact ⟨x, Nat.le_trans ha.le h₁, h₂, hx⟩
  | altLeft _ ih => exact ih hr.1
  | altRight _ ih => exact ih hr.2
  | repDone => exact absurd hr.1 (Nat.lt_irrefl 0)
  | repMore _ hrest ihone =>
    obtain ⟨x, h₁, h₂, hx⟩ := ihone hr.2
    exact ⟨x, h₁, Nat.lt_of_lt_of_le h₂ hrest.le, hx⟩
  | capture _ ih => exact ih hr

theorem Traverse.rep_set_of_run {c : CharClass} {lo : Nat} {greedy : Bool} (σ : Array (Option Nat))
    (hij : i + lo ≤ j)
    (hrun : ∀ x, i ≤ x → x < j → ∃ ch, cs[x]? = some ch ∧
      CharClass.searchRanges c.ranges.toArray ch.toNat = true) :
    Traverse cs (.rep lo none greedy (.set c)) i σ j σ := by
  -- induction on the length of the run, reading its first character each round
  induction hd : j - i generalizing i lo with
  | zero =>
    obtain rfl : lo = 0 := by omega
    obtain rfl : j = i := by omega
    exact .repDone
  | succ d ih =>
    obtain ⟨ch, hch, hin⟩ := hrun i le_rfl (by omega)
    exact .repMore (.set hch hin) (ih (by omega) (fun x h₁ h₂ => hrun x (by omega) h₂) (by omega))

theorem leads_literal {c : Char} (w : List Char) (hc : P c) : (literal (c :: w)).Leads P := by
  have hset : (Expr.set ⟨[(c.toNat, c.toNat)]⟩).Leads P := fun ch h => by
    rw [show [(c.toNat, c.toNat)].toArray = #[(c.toNat, c.toNat)] from rfl,
      CharClass.searchRanges_single rfl, decide_eq_true_eq] at h
    exact h ▸ hc
  cases w with
  | nil => exact hset
  | cons d w => exact hset

theorem within_literal : ∀ {w : List Char}, (∀ c ∈ w, P c) → (literal w).Within P
  | [], _ => trivial
  | [c], h => fun ch hch => by
    rw [show [(c.toNat, c.toNat)].toArray = #[(c.toNat, c.toNat)] from rfl,
      CharClass.searchRanges_single rfl, decide_eq_true_eq] at hch
    exact hch ▸ h c (by simp)
  | c :: d :: w, h =>
    ⟨within_literal (w := [c]) fun e he => h e (by simp_all), within_literal fun e he => h e (by simp [he])⟩

theorem leads_alts : ∀ {es : List Expr}, es ≠ [] → (∀ e ∈ es, e.Leads P) → (alts es).Leads P
  | [], hne, _ => absurd rfl hne
  | [e], _, h => h e (by simp)
  | e :: f :: es, _, h => ⟨h e (by simp), leads_alts (by simp) fun e' he' => h e' (by simp [he'])⟩

theorem within_alts : ∀ {es : List Expr}, (∀ e ∈ es, e.Within P) → (alts es).Within P
  | [], _ => trivial
  | [e], h => h e (by simp)
  | e :: f :: es, h => ⟨h e (by simp), within_alts fun e' he' => h e' (by simp [he'])⟩

end Expr

namespace CharClass

theorem mem_of_singles (ds : List Char) {l : List (Nat × Nat)}
    (hl : ds.map (fun d => (d.toNat, d.toNat)) = l) (hc : Chained l) {ch : Char}
    (h : searchRanges l.toArray ch.toNat = true) : ch ∈ ds := by
  subst hl
  rw [searchRanges_eq_any (Chained.ordered (by simpa using hc))] at h
  simp only [List.any_map, List.any_eq_true, Function.comp_apply, decide_eq_true_eq] at h
  obtain ⟨d, hd, h₁, h₂⟩ := h
  rwa [Char.toNat_inj.1 (Nat.le_antisymm h₂ h₁)]

theorem searchRanges_of_mem_singles (ds : List Char) {l : List (Nat × Nat)}
    (hl : ds.map (fun d => (d.toNat, d.toNat)) = l) (hc : Chained l) {ch : Char} (h : ch ∈ ds) :
    searchRanges l.toArray ch.toNat = true := by
  subst hl
  rw [searchRanges_eq_any (Chained.ordered (by simpa using hc))]
  simp only [List.any_map, List.any_eq_true, Function.comp_apply, decide_eq_true_eq]
  exact ⟨ch, h, le_rfl, le_rfl⟩

theorem ne_quote_of_singles (ds : List Char) {l : List (Nat × Nat)}
    (hl : ds.map (fun d => (d.toNat, d.toNat)) = l) (hc : Chained l) (hq : '"' ∉ ds) (ch : Char)
    (h : searchRanges l.toArray ch.toNat = true) : ch ≠ '"' := fun he =>
  hq (he ▸ mem_of_singles ds hl hc h)

theorem word_ne_quote (ch : Char)
    (h : searchRanges (shortClass true .word).ranges.toArray ch.toNat = true) : ch ≠ '"' := by
  rintro rfl
  rw [searchRanges_word_ascii (by decide)] at h
  exact absurd h (by decide)

theorem space_ne_quote (ch : Char)
    (h : searchRanges (shortClass true .space).ranges.toArray ch.toNat = true) : ch ≠ '"' := by
  rintro rfl
  rw [searchRanges_space_ascii (by decide)] at h
  exact absurd h (by decide)

end CharClass

end Highlight.Regex

namespace Highlight.Subject

theorem byteAt_prefix (P Q : String) : (ofString (P ++ Q)).byteAt P.length = P.utf8ByteSize := by
  rw [byteAt_ofString (by simp [String.length_toList]), ← byteOffset_take, String.toList_append,
    List.take_left' (String.length_toList), ← String.length_toList, byteOffset_length]

end Highlight.Subject

namespace Highlight.Pattern

open Regex Subject

variable {p : Pattern} {t : String} {P : Char → Prop}

/-- **A rule that leads with a character found only between quotes finds nothing.**  When the
expression reads first a character satisfying `P`, and no character from `x` on outside quotes
satisfies `P`, the quote-aware search from `x` finds nothing. -/
theorem matchesFrom_eq_nil_of_leads (hp : p.Compiled) (hl : p.regex.Leads P) {x : Nat}
    (hx : x ≤ (ofString t).chars.size)
    (h : ∀ b, x ≤ b → (ofString t).betweenQuotes ((ofString t).byteAt b) = false →
      ∀ ch, (ofString t).chars[b]? = some ch → ¬ P ch) :
    p.matchesFrom (ofString t) ((ofString t).byteAt x) = [] := by
  refine matchesFrom_eq_nil_of_inside hp hx fun b hb k σ ρ htr => ?_
  by_contra hout
  obtain ⟨ch, hch, hP⟩ := htr.leads hl
  exact h b hb (by simpa using hout) ch hch hP

/-- **A rule that needs a character it cannot reach finds nothing.**  A traversal from outside
quotes stops at the next quote before it reads a character satisfying `P`. -/
theorem matchesFrom_eq_nil_of_needs (hp : p.Compiled) (hn : p.regex.Needs P)
    (hw : p.regex.Within (· ≠ '"')) {x : Nat} (hx : x ≤ (ofString t).chars.size)
    (h : ∀ b, x ≤ b → (ofString t).betweenQuotes ((ofString t).byteAt b) = false →
      ∃ q, b ≤ q ∧ (∀ ch, (ofString t).chars[q]? = some ch → ch = '"') ∧
        ∀ y, b ≤ y → y < q → ∀ ch, (ofString t).chars[y]? = some ch → ¬ P ch) :
    p.matchesFrom (ofString t) ((ofString t).byteAt x) = [] := by
  refine matchesFrom_eq_nil_of_inside hp hx fun b hb k σ ρ htr => ?_
  by_contra hout
  obtain ⟨q, hbq, hq, hnone⟩ := h b hb (by simpa using hout)
  have hkq : k ≤ q := htr.le_of_within hw hbq fun ch hch hne => hne (hq ch hch)
  obtain ⟨y, h₁, h₂, ch, hch, hP⟩ := htr.needs hn
  exact hnone y h₁ (by omega) ch hch hP

theorem findNext_eq_none_of_leads (hp : p.Compiled) (hl : p.regex.Leads P) {x : Nat}
    (hx : x ≤ (ofString t).chars.size)
    (h : ∀ b, x ≤ b → (ofString t).betweenQuotes ((ofString t).byteAt b) = false →
      ∀ ch, (ofString t).chars[b]? = some ch → ¬ P ch) :
    p.findNext (ofString t) ((ofString t).byteAt x) = none := by
  refine findNext_eq_none_of_inside hp hx fun b hb k σ ρ htr => ?_
  by_contra hout
  obtain ⟨ch, hch, hP⟩ := htr.leads hl
  exact h b hb (by simpa using hout) ch hch hP

/-- **The first match outside quotes, from a depth-first answer.**  When every traversal from a
position between `x` and `a` starts between quotes and ends by `a`, and the depth-first search
from `a`, outside quotes, answers slots that open group `0` at `a`, close it at `k` and record the
styled group from `y₁` to `y₂`, the quote-aware search from `x` finds that match. -/
theorem findNext_eq_of_pick (hp : p.Compiled) {f : Nat → Nat} (hT : p.regex.compile.Targets)
    (hR : p.regex.compile.Ranked f) (hn : p.regex.nullable = false) {x a k y₁ y₂ : Nat}
    {out : Array (Option Nat)} (hxa : x ≤ a) (ha : a ≤ (ofString t).chars.size)
    (hskip : ∀ b, x ≤ b → b < a → ∀ k σ ρ, Expr.Traverse (ofString t).chars p.regex b σ k ρ →
      (ofString t).betweenQuotes ((ofString t).byteAt b) = true ∧ k ≤ a)
    (hat : Program.Pick p.regex.compile (ofString t).chars p.regex.compile.start a
      (Array.replicate p.regex.compile.slots none) (some out))
    (hout : (ofString t).betweenQuotes ((ofString t).byteAt a) = false)
    (h0 : out.getD 0 none = some a) (h1 : out.getD 1 none = some k)
    (h₁ : out.getD (2 * p.group) none = some y₁) (h₂ : out.getD (2 * p.group + 1) none = some y₂) :
    p.findNext (ofString t) ((ofString t).byteAt x) =
      some ⟨((ofString t).byteAt a, (ofString t).byteAt k),
        some ((ofString t).byteAt y₁, (ofString t).byteAt y₂)⟩ := by
  have hsearch : p.regex.compile.search (ofString t).chars a = some out :=
    Program.search_eq_some hT hR le_rfl ha (fun s h₁ h₂ => absurd h₂ (by omega)) hat
  have hle := byteAt_le_byteLength ha
  rw [findNext_of_skipped hp hT hR hn hxa ha hskip hat hout, findIn,
    if_neg (by simp only [byteLength_ofString]; omega), charIndex_byteAt ha, hp.program, hsearch]
  simp [h0, h1, h₁, h₂]

/-- **The first match outside quotes, when its traversal is the only one.**  The candidates before
`a` all start between quotes, and the one traversal from `a` fixes the match. -/
theorem findNext_eq_of_unique (hp : p.Compiled) {f : Nat → Nat} (hT : p.regex.compile.Targets)
    (hR : p.regex.compile.Ranked f) (hu : p.regex.unbounded = true)
    (hn : p.regex.nullable = false) {x a k y₁ y₂ : Nat} {out : Array (Option Nat)}
    (hxa : x ≤ a) (ha : a ≤ (ofString t).chars.size)
    (hskip : ∀ b, x ≤ b → b < a → ∀ k σ ρ, Expr.Traverse (ofString t).chars p.regex b σ k ρ →
      (ofString t).betweenQuotes ((ofString t).byteAt b) = true ∧ k ≤ a)
    (hat : Expr.Traverse (ofString t).chars (.capture 0 p.regex) a
      (Array.replicate (2 * p.regex.groupCount) none) k out)
    (huniq : ∀ j ρ, Expr.Traverse (ofString t).chars (.capture 0 p.regex) a
      (Array.replicate (2 * p.regex.groupCount) none) j ρ → ρ = out)
    (hout : (ofString t).betweenQuotes ((ofString t).byteAt a) = false)
    (h₁ : out.getD (2 * p.group) none = some y₁) (h₂ : out.getD (2 * p.group + 1) none = some y₂) :
    p.findNext (ofString t) ((ofString t).byteAt x) =
      some ⟨((ofString t).byteAt a, (ofString t).byteAt k),
        some ((ofString t).byteAt y₁, (ofString t).byteAt y₂)⟩ := by
  obtain ⟨τ, hpick⟩ := Expr.pick_some_of_traverse hT hR hu ha hat
  obtain ⟨j, htr⟩ := Expr.traverse_of_pick hpick
  obtain rfl := huniq j τ htr
  obtain ⟨-, -, -, h0, h1⟩ := Expr.capture_zero_slots hp.noWhole hat
  exact findNext_eq_of_pick hp hT hR hn hxa ha hskip hpick hout h0 h1 h₁ h₂

end Highlight.Pattern
