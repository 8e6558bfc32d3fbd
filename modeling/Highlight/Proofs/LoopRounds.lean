import Highlight.Proofs.CommentScan

/-!
# Every search loop ends

Three loops search a line, each from a position that the round before it moved on:

* the quote-aware search skips a candidate that starts between quotes and searches again from the
  candidate's end (`Pattern.SkipsTo`);
* the iteration over the quote-aware matches yields a match and searches again from its end
  (`Pattern.YieldsTo`);
* the comment scan finds an opener, then a closer after it, and looks for the next opener from the
  closer's end (`BlockComment.RoundTo`).

Each relation is one round of its loop as written, with nothing that stops a round that does not
move on; `Rounds step n a b` says that `n` rounds lead from position `a` to `b`.  When the patterns
never match the empty text, every round moves the position on and keeps it within the line
(`Rounds.add_le`), so the length of the line minus the first position bounds the number of rounds:
the quote-aware search from `start` searches at most `length - start + 1` times, the iteration
yields at most `length` matches, and the comment scan runs its body at most `length` times
(`search_loops_bounded`).  A pattern accepted with no least length may match the empty text, and
then a loop can run on a line with no byte at all (`scan_runs_on_empty_line_of_empty_class`).
-/

namespace Highlight

/-- `n` rounds of a loop whose one round is `step` lead from position `a` to position `b`. -/
inductive Rounds (step : Nat → Nat → Prop) : Nat → Nat → Nat → Prop
  | done (a : Nat) : Rounds step 0 a a
  | next {n a b c : Nat} : step a b → Rounds step n b c → Rounds step (n + 1) a c

namespace Rounds

variable {step : Nat → Nat → Prop} {len : Nat}

theorem eq_of_zero {a b : Nat} (h : Rounds step 0 a b) : a = b := by
  cases h
  rfl

/-- **Rounds that move on within the line are bounded by it.** Each round moves the position on
by at least one and leaves it within the line, so `n` rounds from `a` end at or after `a + n`, and
within the line when there was one. -/
theorem add_le (hstep : ∀ a b, step a b → a < b ∧ b ≤ len) :
    ∀ {n a b : Nat}, Rounds step n a b → a + n ≤ b ∧ (0 < n → b ≤ len)
  | _, _, _, .done _ => ⟨Nat.le_refl _, fun h => absurd h (Nat.lt_irrefl 0)⟩
  | n + 1, _, _, .next hab hrest => by
    obtain ⟨h₁, h₂⟩ := hstep _ _ hab
    obtain ⟨h₃, h₄⟩ := add_le hstep hrest
    refine ⟨by omega, fun _ => ?_⟩
    rcases Nat.eq_zero_or_pos n with rfl | hn
    · rw [← hrest.eq_of_zero]
      exact h₂
    · exact h₄ hn

theorem le_sub (hstep : ∀ a b, step a b → a < b ∧ b ≤ len) {n a b : Nat}
    (h : Rounds step n a b) : n ≤ len - a := by
  obtain ⟨h₁, h₂⟩ := add_le hstep h
  rcases Nat.eq_zero_or_pos n with rfl | hn
  · exact Nat.zero_le _
  · have := h₂ hn
    omega

end Rounds

namespace Pattern

/-- One round of the quote-aware search: the search from `pos` finds a candidate that starts
between quotes, and the next search starts at the candidate's end. -/
def SkipsTo (p : Pattern) (s : Subject) (pos next : Nat) : Prop :=
  ∃ m, p.findIn s pos = some m ∧ s.betweenQuotes m.whole.1 = true ∧ next = m.whole.2

/-- One round of the iteration over the quote-aware matches: the quote-aware search from `pos`
yields a match, and the next search starts at its end. -/
def YieldsTo (p : Pattern) (s : Subject) (pos next : Nat) : Prop :=
  ∃ m, p.findNext s pos = some m ∧ next = m.whole.2

variable {p : Pattern} {s : Subject}

theorem SkipsTo.advances (h : p.Advances s) {pos next : Nat} (hskip : p.SkipsTo s pos next) :
    pos < next ∧ next ≤ s.byteLength := by
  obtain ⟨m, hm, -, rfl⟩ := hskip
  exact h.guard hm

theorem YieldsTo.advances (h : p.Advances s) {pos next : Nat} (hyield : p.YieldsTo s pos next) :
    pos < next ∧ next ≤ s.byteLength := by
  obtain ⟨m, hm, rfl⟩ := hyield
  obtain ⟨h₁, h₂, h₃⟩ := findNext_spec h pos m hm
  exact ⟨by omega, h₃⟩

theorem not_skipsTo_of_lt {pos next : Nat} (hpos : s.byteLength < pos) : ¬ p.SkipsTo s pos next := by
  rintro ⟨m, hm, -⟩
  simp [findIn, hpos] at hm

end Pattern

namespace BlockComment

/-- One round of the comment scan that goes on: an opener outside quotes from `cursor`, a closer
from the opener's end, and the next round from the closer's end. -/
def RoundTo (bc : BlockComment) (s : Subject) (cursor next : Nat) : Prop :=
  ∃ o c, bc.start.findNext s cursor = some o ∧ bc.stop.findIn s o.whole.2 = some c ∧
    next = c.whole.2

variable {bc : BlockComment} {s : Subject}

theorem RoundTo.advances (hS : bc.start.Advances s) (hE : bc.stop.Advances s) {cursor next : Nat}
    (hround : bc.RoundTo s cursor next) : cursor < next ∧ next ≤ s.byteLength := by
  obtain ⟨o, c, hopen, hclose, rfl⟩ := hround
  exact round_advances hS hE hopen hclose

theorem rounds_add_last_le (hS : bc.start.Advances s) (hE : bc.stop.Advances s)
    {n cursor₀ cursor : Nat} (h : Rounds (bc.RoundTo s) n cursor₀ cursor) :
    n ≤ s.byteLength - cursor₀ ∧
      (bc.start.findNext s cursor ≠ none → n + 1 ≤ s.byteLength - cursor₀) := by
  have hstep : ∀ a b, bc.RoundTo s a b → a < b ∧ b ≤ s.byteLength :=
    fun _ _ hround => RoundTo.advances hS hE hround
  refine ⟨h.le_sub hstep, fun hopen => ?_⟩
  obtain ⟨o, ho⟩ := Option.ne_none_iff_exists'.1 hopen
  obtain ⟨h₁, h₂, h₃⟩ := Pattern.findNext_spec hS cursor o ho
  have := (Rounds.add_le hstep h).1
  omega

end BlockComment

open Regex

/-- **Every search loop ends, within the length of the line.**  With patterns of known least
length every round moves past the match before, so each loop takes at most as many rounds as
the line has bytes left. -/
theorem search_loops_bounded {source : String} {g : Nat} {p : Pattern}
    (hp : Pattern.withGroup source g = .ok p)
    (hknown : ∀ parsed, parsePattern source = .ok parsed → parsed.tree.minLen.isSome)
    {bc : BlockComment} {opener closer : String}
    (hopen : Pattern.new opener = .ok bc.start) (hclose : Pattern.new closer = .ok bc.stop)
    (hknownOpen : ∀ parsed, parsePattern opener = .ok parsed → parsed.tree.minLen.isSome)
    (hknownClose : ∀ parsed, parsePattern closer = .ok parsed → parsed.tree.minLen.isSome)
    (text : String) :
    let s := Subject.ofString text
    (∀ start n pos, Rounds (p.SkipsTo s) n start pos →
      n ≤ text.utf8ByteSize - start ∧ (text.utf8ByteSize < start → n = 0)) ∧
      (∀ n pos, Rounds (p.YieldsTo s) n 0 pos → n ≤ text.utf8ByteSize) ∧
      ∀ cursor₀ n cursor, Rounds (bc.RoundTo s) n cursor₀ cursor →
        n + (if bc.start.findNext s cursor = none then 0 else 1) ≤ text.utf8ByteSize := by
  intro s
  have hadv := Pattern.advances_of_withGroup hp hknown text
  have hS := Pattern.advances_of_withGroup hopen hknownOpen text
  have hE := Pattern.advances_of_withGroup hclose hknownClose text
  have hlen : (Subject.ofString text).byteLength = text.utf8ByteSize := Subject.byteLength_ofString text
  refine ⟨fun start n pos h => ⟨?_, fun hstart => ?_⟩, fun n pos h => ?_,
    fun cursor₀ n cursor h => ?_⟩
  · rw [← hlen]
    exact h.le_sub fun _ _ hskip => Pattern.SkipsTo.advances hadv hskip
  · -- a round from beyond the line would need a match there
    cases h with
    | done => rfl
    | next hskip _ => exact absurd hskip (Pattern.not_skipsTo_of_lt (hlen ▸ hstart))
  · rw [← hlen]
    simpa using h.le_sub fun _ _ hyield => Pattern.YieldsTo.advances hadv hyield
  · obtain ⟨h₁, h₂⟩ := BlockComment.rounds_add_last_le hS hE h
    split
    · omega
    · have := h₂ ‹_›
      omega

/-- The loops at the pattern `a+` and comments between `<` and `>`, on a line with a comment, a
quoted `a` and an opener left open. -/
theorem search_loops_bounded_of_plus_angles :
    ∃ (p : Pattern) (bc : BlockComment), Pattern.withGroup "a+" 0 = .ok p ∧
      (∀ parsed, parsePattern "a+" = .ok parsed → parsed.tree.minLen.isSome) ∧
      Pattern.new "<" = .ok bc.start ∧ Pattern.new ">" = .ok bc.stop ∧
      (∀ parsed, parsePattern "<" = .ok parsed → parsed.tree.minLen.isSome) ∧
      (∀ parsed, parsePattern ">" = .ok parsed → parsed.tree.minLen.isSome) ∧
      let s := Subject.ofString "a<a>\"a\"<"
      (∀ start n pos, Rounds (p.SkipsTo s) n start pos →
        n ≤ "a<a>\"a\"<".utf8ByteSize - start ∧ ("a<a>\"a\"<".utf8ByteSize < start → n = 0)) ∧
        (∀ n pos, Rounds (p.YieldsTo s) n 0 pos → n ≤ "a<a>\"a\"<".utf8ByteSize) ∧
        ∀ cursor₀ n cursor, Rounds (bc.RoundTo s) n cursor₀ cursor →
          n + (if bc.start.findNext s cursor = none then 0 else 1) ≤ "a<a>\"a\"<".utf8ByteSize := by
  have hopen := Pattern.new_openAngle
  have hclose := Pattern.new_closeAngle
  have hknown : ∀ parsed, parsePattern "a+" = .ok parsed → parsed.tree.minLen.isSome :=
    Pattern.known_of_minLen (k := 1) (by cbv)
  have hknownOpen : ∀ parsed, parsePattern "<" = .ok parsed → parsed.tree.minLen.isSome :=
    Pattern.known_of_minLen (k := 1) (by cbv)
  have hknownClose : ∀ parsed, parsePattern ">" = .ok parsed → parsed.tree.minLen.isSome :=
    Pattern.known_of_minLen (k := 1) (by cbv)
  exact ⟨_, ⟨_, _⟩, Pattern.withGroup_plus, hknown, hopen, hclose, hknownOpen, hknownClose,
    search_loops_bounded Pattern.withGroup_plus hknown hopen hclose hknownOpen hknownClose _⟩

/-- **A comment scan runs on a line with no byte.** The opener `x|\B[^\s\S]*` is accepted with
no least length; on the empty line, after no round, the scan still finds it from cursor `0` and
runs its body, once more than the line has bytes. -/
theorem scan_runs_on_empty_line_of_empty_class :
    ∃ bc : BlockComment, Pattern.new "x|\\B[^\\s\\S]*" = .ok bc.start ∧
      Pattern.new "y" = .ok bc.stop ∧ (Subject.ofString "").byteLength = 0 ∧
      Rounds (bc.RoundTo (Subject.ofString "")) 0 0 0 ∧
      bc.start.findNext (Subject.ofString "") 0 ≠ none := by
  obtain ⟨po, hopen, ho⟩ := Pattern.new_findNext_empty_line_of_empty_class
  have hclose : Pattern.new "y" = .ok ⟨"y", 0, .set ⟨[(121, 121)]⟩, Expr.compile (.set ⟨[(121, 121)]⟩)⟩ :=
    Pattern.withGroup_of_reading rfl (by cbv) (by decide) (by decide) (by decide)
  exact ⟨⟨po, _⟩, hopen, hclose, by simp, .done 0, by simp [ho]⟩

end Highlight
