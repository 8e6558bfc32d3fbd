import Mathlib
import Highlight.Pattern
import Highlight.Proofs.Backtrack
import Highlight.Proofs.Offsets

/-!
# Where a match lies

A pattern built by `Pattern.withGroup` searches with the compiled form of its expression, and no
group of the expression takes the number `0` of the whole match (`Pattern.Compiled`).  Then a
match that `Pattern.findIn` answers is the stretch between two character boundaries of the line,
at or after the offset searched from, and the styled group lies inside it
(`Pattern.findIn_spec`): in bytes, from ≤ whole start ≤ styled start ≤ styled end ≤ whole end ≤
the line's length (`Pattern.findAt_bounds`).

A match is not empty when the pattern's normal form has a known least length: `withGroup` refuses
a least length of `0`, and a normal form that can read nothing has one of `0` or none at all.  A
class with no member has no least length, and the check lets through a pattern built around one
(`Pattern.findAt_empty_of_empty_class`).
-/

namespace Highlight

namespace Regex

namespace Expr

theorem getD_of_kept {n g : Nat} {out : Array (Option Nat)}
    (h : GroupKept (Array.replicate n none) out g) : out.getD (2 * g) none = none := by
  rw [Array.getD_eq_getD_getElem?, h.1, Array.getElem?_replicate]
  split <;> rfl

/-- **The slots a search answers.** A search of a compiled expression that records no group `0`
of its own answers group `0` as a stretch `s`..`j` of the text at or after `start`, which the
expression traverses; it reads a character when the expression is not nullable, and every group
it records lies inside it. -/
theorem search_slots {r : Expr} (hr : r.hasGroup 0 = false) {cs : Array Char} {start : Nat}
    {out : Array (Option Nat)} (h : r.compile.search cs start = some out) :
    ∃ s j, start ≤ s ∧ s ≤ j ∧ j ≤ cs.size ∧ (r.nullable = false → s < j) ∧
      out.getD 0 none = some s ∧ out.getD 1 none = some j ∧
      ∀ g x y, out.getD (2 * g) none = some x → out.getD (2 * g + 1) none = some y →
        s ≤ x ∧ x ≤ y ∧ y ≤ j := by
  obtain ⟨s, j, hs, hsize, htr⟩ := traverse_of_search h
  have hgroups := htr.slots (by simp)
  have hcount : 0 < r.groupCount := Nat.succ_pos _
  cases htr with
  | capture hinner =>
    rename_i τ
    have hτ : τ.size = 2 * r.groupCount := by simpa using hinner.size_eq
    -- group `0` is opened at `s` before the expression and closed at `j` after it; the
    -- expression itself keeps its slots
    have hopen : τ[0]? = some (some s) := by
      rcases hinner.slots (by simp) 0 with hk | ⟨hg, -⟩
      · rw [hk.1, Array.getElem?_setIfInBounds_self_of_lt (by simp; omega)]
      · rw [hr] at hg
        cases hg
    refine ⟨s, j, hs, hinner.le, hinner.le_size hsize, hinner.lt_of_nullable_eq_false, ?_, ?_,
      fun g x y hx hy => ?_⟩
    · rw [Array.getD_eq_getD_getElem?, Array.getElem?_setIfInBounds_ne (by omega), hopen]
      rfl
    · rw [Array.getD_eq_getD_getElem?, Array.getElem?_setIfInBounds_self_of_lt (by omega)]
      rfl
    · rcases hgroups g with hk | ⟨-, x', y', hx', hy', hle⟩
      · rw [getD_of_kept hk] at hx
        cases hx
      · rw [Array.getD_eq_getD_getElem?, hx'] at hx
        rw [Array.getD_eq_getD_getElem?, hy'] at hy
        cases hx
        cases hy
        exact hle

end Expr

theorem Parsed.nullable_eq_false {p : Parsed} {k : Nat} (h : p.tree.minLen = some k) (hk : 0 < k) :
    p.expr.nullable = false := by
  cases hn : p.expr.nullable
  · rfl
  · rcases Tree.minLen_of_nullable p.tree (p.sound.nullable hn) with h' | h' <;>
      simp_all

end Regex

open Regex

namespace Pattern

/-- What every pattern that `withGroup` builds keeps: it searches with the compiled form of its
expression, and no group of the expression takes the number of the whole match. -/
structure Compiled (p : Pattern) : Prop where
  program : p.program = p.regex.compile
  noWhole : p.regex.hasGroup 0 = false

theorem withGroup_eq_ok {source : String} {g : Nat} {p : Pattern}
    (h : withGroup source g = .ok p) :
    ∃ parsed, parsePattern source = .ok parsed ∧ parsed.tree.minLen ≠ some 0 ∧
      g < parsed.expr.groupCount ∧ p = ⟨source, g, parsed.expr, parsed.expr.compile⟩ := by
  unfold withGroup at h
  split at h
  · cases h
  split at h
  · cases h
  rename_i parsed hparse
  split at h
  · cases h
  rename_i hmin
  split at h
  · cases h
  dsimp only at h
  split at h
  · cases h
  rename_i hg
  cases h
  exact ⟨parsed, hparse, by simpa using hmin, by omega, rfl⟩

theorem withGroup_of_reading {source : String} {g : Nat} {e : Expr} {len : Option Nat} {n : Nat}
    (hsrc : source.isEmpty = false)
    (h : (parsePattern source).map (fun p => (p.expr, p.tree.minLen, p.tree.automatonBound)) =
      .ok (e, len, n))
    (hlen : len ≠ some 0) (hn : n ≤ automatonLimit) (hg : g < e.groupCount) :
    withGroup source g = .ok ⟨source, g, e, e.compile⟩ := by
  cases hparse : parsePattern source with
  | error err => simp [hparse, Except.map] at h
  | ok parsed =>
    simp only [hparse, Except.map, Except.ok.injEq, Prod.mk.injEq] at h
    obtain ⟨rfl, rfl, rfl⟩ := h
    have hfits := Tree.fitsAutomata_of_bound parsed.tree hn
    simp [withGroup, hsrc, hparse, hlen, hfits, Nat.not_le.2 hg]

theorem compiled_of_withGroup {source : String} {g : Nat} {p : Pattern}
    (h : withGroup source g = .ok p) : p.Compiled := by
  obtain ⟨parsed, -, -, -, rfl⟩ := withGroup_eq_ok h
  exact ⟨rfl, parsed.sound.noWhole⟩

/-- **What `findIn` answers.** A match comes from a search of the pattern's program from the
character at the offset, which lies within the line: its whole is group `0` of the slots, and its
styled part is the pattern's group when both of its slots are set. -/
theorem findIn_eq_some {p : Pattern} {s : Subject} {start : Nat} {m : Match}
    (h : p.findIn s start = some m) :
    ∃ out a b, start ≤ s.byteLength ∧ p.program.search s.chars (s.charIndex start) = some out ∧
      out.getD 0 none = some a ∧ out.getD 1 none = some b ∧ m.whole = (s.byteAt a, s.byteAt b) ∧
      ∀ r, m.styled = some r ↔ ∃ x y, out.getD (2 * p.group) none = some x ∧
        out.getD (2 * p.group + 1) none = some y ∧ r = (s.byteAt x, s.byteAt y) := by
  unfold findIn at h
  split at h
  · cases h
  rename_i hlen
  split at h
  · cases h
  rename_i out hsearch
  split at h
  · rename_i a b h0 h1
    cases h
    refine ⟨out, a, b, by omega, hsearch, h0, h1, rfl, fun r => ?_⟩
    split
    · rename_i x y hx hy
      simp [hx, hy, eq_comm]
    · rename_i hxy
      simp only [reduceCtorEq, false_iff, not_exists, not_and]
      rintro x y hx hy -
      exact hxy x y hx hy
  · cases h

/-- **Where a match lies, in characters.** A match that a compiled pattern finds from an offset
within the line runs between two character boundaries `a ≤ b`, the first at or after the offset,
and at least one character apart when the expression is not nullable; its styled group runs
between two boundaries inside it. -/
theorem findIn_spec {p : Pattern} (hp : p.Compiled) {s : Subject} {start : Nat} {m : Match}
    (h : p.findIn s start = some m) :
    start ≤ s.byteLength ∧ ∃ a b, s.charIndex start ≤ a ∧ a ≤ b ∧ b ≤ s.chars.size ∧
      m.whole = (s.byteAt a, s.byteAt b) ∧ (p.regex.nullable = false → a < b) ∧
      ∀ r, m.styled = some r → ∃ x y, a ≤ x ∧ x ≤ y ∧ y ≤ b ∧ r = (s.byteAt x, s.byteAt y) := by
  obtain ⟨out, a, b, hlen, hsearch, h0, h1, hwhole, hstyled⟩ := findIn_eq_some h
  rw [hp.program] at hsearch
  obtain ⟨a', b', ha, hab, hb, hnull, h0', h1', hgroups⟩ := Expr.search_slots hp.noWhole hsearch
  obtain rfl : a' = a := Option.some.inj (h0'.symm.trans h0)
  obtain rfl : b' = b := Option.some.inj (h1'.symm.trans h1)
  refine ⟨hlen, a', b', ha, hab, hb, hwhole, hnull, fun r hr => ?_⟩
  obtain ⟨x, y, hx, hy, rfl⟩ := (hstyled r).1 hr
  obtain ⟨hax, hxy, hyb⟩ := hgroups p.group x y hx hy
  exact ⟨x, y, hax, hxy, hyb, rfl⟩

theorem regex_nullable_eq_false {source : String} {g : Nat} {p : Pattern}
    (hp : withGroup source g = .ok p) {parsed : Parsed} (hparsed : parsePattern source = .ok parsed)
    (hknown : parsed.tree.minLen.isSome) : p.regex.nullable = false := by
  obtain ⟨parsed', hparsed', hmin, -, rfl⟩ := withGroup_eq_ok hp
  rw [hparsed] at hparsed'
  cases hparsed'
  obtain ⟨k, hk⟩ := Option.isSome_iff_exists.1 hknown
  have hpos : 0 < k := by
    rcases Nat.eq_zero_or_pos k with rfl | hk'
    · exact absurd hk hmin
    · exact hk'
  exact Parsed.nullable_eq_false hk hpos

/-- **Where a match lies in a line, in bytes.** A match that a compiled pattern finds starts at
or after `start` and ends within the line, its styled group inside it; it is not empty when the
expression is not nullable. -/
theorem findIn_ofString_bounds {p : Pattern} (hp : p.Compiled) {text : String} {start : Nat}
    {m : Match} (hm : p.findIn (Subject.ofString text) start = some m) :
    start ≤ m.whole.1 ∧ m.whole.1 ≤ m.whole.2 ∧ m.whole.2 ≤ text.utf8ByteSize ∧
      (∀ r, m.styled = some r → m.whole.1 ≤ r.1 ∧ r.1 ≤ r.2 ∧ r.2 ≤ m.whole.2) ∧
      (p.regex.nullable = false → m.whole.1 < m.whole.2) := by
  obtain ⟨hlen, a, b, ha, hab, hb, hwhole, hnull, hstyled⟩ := findIn_spec hp hm
  rw [Subject.byteLength_ofString] at hlen
  have hstart : start ≤ (Subject.ofString text).byteAt a :=
    Nat.le_trans (Subject.le_byteAt_charIndex hlen)
      (Subject.byteAt_le_byteAt ha (Nat.le_trans hab hb))
  rw [hwhole]
  refine ⟨hstart, Subject.byteAt_le_byteAt hab hb, Subject.byteAt_le_byteLength hb,
    fun r hr => ?_, fun hn => Subject.byteAt_lt_byteAt (hnull hn) hb⟩
  obtain ⟨x, y, hax, hxy, hyb, rfl⟩ := hstyled r hr
  have hy : y ≤ (Subject.ofString text).chars.size := Nat.le_trans hyb hb
  exact ⟨Subject.byteAt_le_byteAt hax (Nat.le_trans hxy hy), Subject.byteAt_le_byteAt hxy hy,
    Subject.byteAt_le_byteAt hyb hb⟩

/-- **Every match lies within the line, at or after the offset searched from.** A match that a
pattern built by `withGroup` finds starts at or after `start` and ends within the line, its styled
group inside it; when the pattern's normal form has a known least length, the match is not
empty. -/
theorem findAt_bounds {source : String} {g : Nat} {p : Pattern} {text : String} {start : Nat}
    {m : Match} (hp : withGroup source g = .ok p) (hm : p.findAt text start = some m) :
    start ≤ m.whole.1 ∧ m.whole.1 ≤ m.whole.2 ∧ m.whole.2 ≤ text.utf8ByteSize ∧
      (∀ r, m.styled = some r → m.whole.1 ≤ r.1 ∧ r.1 ≤ r.2 ∧ r.2 ≤ m.whole.2) ∧
      (∀ parsed, parsePattern source = .ok parsed → parsed.tree.minLen.isSome →
        m.whole.1 < m.whole.2) := by
  obtain ⟨hstart, hle, hend, hstyled, hnonempty⟩ :=
    findIn_ofString_bounds (compiled_of_withGroup hp) hm
  exact ⟨hstart, hle, hend, hstyled,
    fun _ hparsed hknown => hnonempty (regex_nullable_eq_false hp hparsed hknown)⟩

theorem withGroup_plus :
    withGroup "a+" 0 = .ok ⟨"a+", 0, .rep 1 none true (.set ⟨[(97, 97)]⟩),
      Expr.compile (.rep 1 none true (.set ⟨[(97, 97)]⟩))⟩ :=
  withGroup_of_reading rfl (by cbv) (by decide) (by decide) (by decide)

theorem withGroup_empty_class :
    withGroup "ab|\\B[^\\s\\S]*" 0 = .ok ⟨"ab|\\B[^\\s\\S]*", 0,
      .alt (.cat (.set ⟨[(97, 97)]⟩) (.set ⟨[(98, 98)]⟩))
        (.cat (.look (.notWordBoundary true)) (.rep 0 none true (.set ⟨[]⟩))),
      Expr.compile (.alt (.cat (.set ⟨[(97, 97)]⟩) (.set ⟨[(98, 98)]⟩))
        (.cat (.look (.notWordBoundary true)) (.rep 0 none true (.set ⟨[]⟩))))⟩ :=
  withGroup_of_reading rfl (by cbv) (by decide) (by decide) (by decide)

/-- The bounds at a pattern of one or more `a`, in a line that starts with another letter. -/
theorem findAt_bounds_of_plus :
    ∃ p m, withGroup "a+" 0 = .ok p ∧ p.findAt "baa" 0 = some m ∧
      0 ≤ m.whole.1 ∧ m.whole.1 ≤ m.whole.2 ∧ m.whole.2 ≤ "baa".utf8ByteSize ∧
      (∀ r, m.styled = some r → m.whole.1 ≤ r.1 ∧ r.1 ≤ r.2 ∧ r.2 ≤ m.whole.2) ∧
      (∀ parsed, parsePattern "a+" = .ok parsed → parsed.tree.minLen.isSome →
        m.whole.1 < m.whole.2) := by
  have hm : Pattern.findAt ⟨"a+", 0, .rep 1 none true (.set ⟨[(97, 97)]⟩),
      Expr.compile (.rep 1 none true (.set ⟨[(97, 97)]⟩))⟩ "baa" 0 = some ⟨(1, 3), some (1, 3)⟩ := by
    simp only [findAt, Subject.ofString, String.foldl_eq_foldl_toList]
    decide +kernel
  exact ⟨_, _, withGroup_plus, hm, findAt_bounds withGroup_plus hm⟩

/-- **A pattern built around a class with no member can match the empty text.**  A class with no
member has no least length, so neither has the alternation `ab|\B[^\s\S]*`, and `withGroup`
accepts it; between `a` and `b` its second branch matches nothing at all. -/
theorem findAt_empty_of_empty_class :
    ∃ p, withGroup "ab|\\B[^\\s\\S]*" 0 = .ok p ∧
      p.findAt "ab" 1 = some ⟨(1, 1), some (1, 1)⟩ := by
  refine ⟨_, withGroup_empty_class, ?_⟩
  simp only [findAt, Subject.ofString, String.foldl_eq_foldl_toList]
  decide +kernel

end Pattern

end Highlight
