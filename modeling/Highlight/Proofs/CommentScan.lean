import Highlight.Proofs.SpanBounds

/-!
# The comment scan

`BlockComment.scan` lays comment spans over a line.  From the state the line starts in it first
closes a comment the line continues, at the first closer from the start of the line; then it
repeats a round: the first opener outside quotes from the cursor, then the first closer from the
opener's end, the span from the one to the other, and the cursor on at the closer's end.  A round
whose opener has no closer ends the scan inside a comment; no opener ends it in code.

When neither pattern matches the empty text (`Pattern.Advances`), the scan is well structured:

* every span is a comment span covering at least one byte of the line, and each starts after
  the one before it ends (`BlockComment.scan_spans`);
* a continued comment is the first span, from the start of the line to the first closer's end
  or to the end of the line (`BlockComment.scan_comment_head`);
* the line ends inside a comment exactly when it is empty and continued one, or when its last
  comment has no closer: the span ends at the end of the line and the closer has no match from
  the end of the opener that began it, or from the start of the line for a continued comment
  (`BlockComment.scan_comment_iff`);
* a line that ends in code has no opener outside quotes after its last comment
  (`BlockComment.findNext_cursorAfter_scan`).

The cursor of a round is where the spans before it end (`BlockComment.cursorAfter`), since every
round makes one span and moves the cursor to its end.
-/

namespace Highlight

theorem commentSpan_of_lt {a b : Nat} (h : a < b) : commentSpan a b = [⟨a, b, .comment⟩] := by
  simp [commentSpan, h]

namespace Pattern

theorem known_of_minLen {source : String} {k : Nat}
    (h : (Regex.parsePattern source).map (·.tree.minLen) = .ok (some k)) :
    ∀ parsed, Regex.parsePattern source = .ok parsed → parsed.tree.minLen.isSome := by
  intro parsed hparsed
  simp only [hparsed, Except.map, Except.ok.injEq] at h
  rw [h]
  rfl

end Pattern

namespace BlockComment

/-- Where a scan that started at `cursor` stands after laying the spans `B`: the end of the last of
them, or `cursor` when there is none. -/
def cursorAfter (cursor : Nat) (B : List Span) : Nat := (B.getLast?.map (·.stop)).getD cursor

@[simp] theorem cursorAfter_nil (cursor : Nat) : cursorAfter cursor [] = cursor := rfl

@[simp] theorem cursorAfter_cons (cursor : Nat) (sp : Span) (B : List Span) :
    cursorAfter cursor (sp :: B) = cursorAfter sp.stop B := by
  unfold cursorAfter
  cases B with
  | nil => rfl
  | cons b B => simp [List.getLast?_cons]

variable {bc : BlockComment} {s : Subject}

theorem scan_comment_of_closer (hE : bc.stop.Advances s) {c : Match}
    (hclose : bc.stop.findIn s 0 = some c) :
    bc.scan s .comment = (⟨0, c.whole.2, .comment⟩ :: (bc.scanFrom s c.whole.2).1,
      (bc.scanFrom s c.whole.2).2) := by
  obtain ⟨-, h₂, -⟩ := hE 0 c hclose
  simp [scan, hclose, commentSpan_of_lt (show 0 < c.whole.2 by omega)]

theorem scan_comment_of_none (hclose : bc.stop.findIn s 0 = none) :
    bc.scan s .comment = (commentSpan 0 s.byteLength, .comment) := by
  simp [scan, hclose]

theorem scan_comment_head (hE : bc.stop.Advances s) (hlen : 0 < s.byteLength) :
    (bc.scan s .comment).1.head? =
      some ⟨0, ((bc.stop.findIn s 0).map (·.whole.2)).getD s.byteLength, .comment⟩ := by
  cases hclose : bc.stop.findIn s 0 with
  | none => simp [scan_comment_of_none hclose, commentSpan_of_lt hlen]
  | some c => simp [scan_comment_of_closer hE hclose]

section Rounds
variable (hS : bc.start.Advances s) (hE : bc.stop.Advances s)
include hS hE

theorem opener_closer_bounds {cursor : Nat} {o c : Match}
    (hopen : bc.start.findNext s cursor = some o) (hclose : bc.stop.findIn s o.whole.2 = some c) :
    cursor ≤ o.whole.1 ∧ o.whole.1 < o.whole.2 ∧ o.whole.2 ≤ c.whole.1 ∧ c.whole.1 < c.whole.2 ∧
      c.whole.2 ≤ s.byteLength := by
  obtain ⟨h₁, h₂, -⟩ := Pattern.findNext_spec hS cursor o hopen
  obtain ⟨h₃, h₄, h₅⟩ := hE o.whole.2 c hclose
  exact ⟨h₁, h₂, h₃, h₄, h₅⟩

theorem round_advances {cursor : Nat} {o c : Match}
    (hopen : bc.start.findNext s cursor = some o) (hclose : bc.stop.findIn s o.whole.2 = some c) :
    cursor < c.whole.2 ∧ c.whole.2 ≤ s.byteLength := by
  obtain ⟨h₁, h₂, h₃, h₄, h₅⟩ := opener_closer_bounds hS hE hopen hclose
  exact ⟨by omega, h₅⟩

theorem scanFrom_spans (cursor : Nat) :
    (∀ sp ∈ (bc.scanFrom s cursor).1, sp.style = .comment ∧ cursor ≤ sp.start ∧
      sp.start < sp.stop ∧ sp.stop ≤ s.byteLength) ∧
      (bc.scanFrom s cursor).1.Pairwise fun a b => a.stop ≤ b.start := by
  fun_induction bc.scanFrom s cursor with
  | case1 => exact ⟨fun _ h => absurd h List.not_mem_nil, .nil⟩
  | case2 cursor o hopen hclose =>
    obtain ⟨h₁, h₂, h₃⟩ := Pattern.findNext_spec hS cursor o hopen
    rw [commentSpan_of_lt (by omega)]
    refine ⟨fun sp hsp => ?_, List.pairwise_singleton _ _⟩
    rw [List.mem_singleton.1 hsp]
    exact ⟨rfl, h₁, by dsimp only; omega, Nat.le_refl _⟩
  | case3 cursor o hopen c hclose hg rest st hrest ih =>
    rw [hrest] at ih
    obtain ⟨hafter, hpair⟩ := ih
    obtain ⟨h₁, h₂, h₃, h₄, h₅⟩ := opener_closer_bounds hS hE hopen hclose
    rw [commentSpan_of_lt (by omega), List.singleton_append]
    refine ⟨fun sp hsp => ?_, .cons (fun sp hsp => (hafter sp hsp).2.1) hpair⟩
    rcases List.mem_cons.1 hsp with rfl | hsp
    · exact ⟨rfl, h₁, by dsimp only; omega, h₅⟩
    · obtain ⟨hs₁, hs₂, hs₃, hs₄⟩ := hafter sp hsp
      exact ⟨hs₁, by omega, hs₃, hs₄⟩
  | case4 cursor o hopen c hclose hg => exact absurd (round_advances hS hE hopen hclose) hg

/-- **The rounds from a cursor end inside a comment exactly when the last opener has no
closer:** the last span then ends at the end of the line, and it starts at the opener found from
where the spans before it end, from whose end the closer has no match. -/
theorem scanFrom_comment_iff (cursor : Nat) :
    (bc.scanFrom s cursor).2 = .comment ↔
      ∃ B sp, (bc.scanFrom s cursor).1 = B ++ [sp] ∧ sp.stop = s.byteLength ∧
        ∃ o, bc.start.findNext s (cursorAfter cursor B) = some o ∧ o.whole.1 = sp.start ∧
          bc.stop.findIn s o.whole.2 = none := by
  fun_induction bc.scanFrom s cursor with
  | case1 => simp
  | case2 cursor o hopen hclose =>
    obtain ⟨-, h₂, h₃⟩ := Pattern.findNext_spec hS cursor o hopen
    rw [commentSpan_of_lt (by omega)]
    simp only [true_iff]
    exact ⟨[], _, rfl, rfl, o, hopen, rfl, hclose⟩
  | case3 cursor o hopen c hclose hg rest st hrest ih =>
    rw [hrest] at ih
    dsimp only at ih ⊢
    obtain ⟨-, h₂, h₃, h₄, -⟩ := opener_closer_bounds hS hE hopen hclose
    rw [commentSpan_of_lt (by omega), List.singleton_append, ih]
    constructor
    · rintro ⟨B, sp, hB, hsp⟩
      exact ⟨⟨o.whole.1, c.whole.2, .comment⟩ :: B, sp, by rw [hB]; rfl, by simpa using hsp⟩
    · rintro ⟨B, sp, hB, hstop, o', hopen', hstart, hnone⟩
      rcases B with _ | ⟨b, B⟩
      · -- the first round's span is the last one only if nothing follows, but its closer exists
        simp only [List.nil_append, List.cons.injEq] at hB
        obtain ⟨rfl, rfl⟩ := hB
        rw [cursorAfter_nil, hopen] at hopen'
        cases hopen'
        rw [hclose] at hnone
        cases hnone
      · simp only [List.cons_append, List.cons.injEq] at hB
        obtain ⟨rfl, hB⟩ := hB
        exact ⟨B, sp, hB, hstop, o', by simpa using hopen', hstart, hnone⟩
  | case4 cursor o hopen c hclose hg => exact absurd (round_advances hS hE hopen hclose) hg

theorem findNext_cursorAfter_scanFrom (cursor : Nat) (h : (bc.scanFrom s cursor).2 = .code) :
    bc.start.findNext s (cursorAfter cursor (bc.scanFrom s cursor).1) = none := by
  fun_induction bc.scanFrom s cursor with
  | case1 cursor hopen => exact hopen
  | case2 => cases h
  | case3 cursor o hopen c hclose hg rest st hrest ih =>
    rw [hrest] at ih
    dsimp only at ih h ⊢
    obtain ⟨-, h₂, h₃, h₄, -⟩ := opener_closer_bounds hS hE hopen hclose
    rw [commentSpan_of_lt (by omega), List.singleton_append, cursorAfter_cons]
    exact ih h
  | case4 cursor o hopen c hclose hg => exact absurd (round_advances hS hE hopen hclose) hg

/-! ## The scan of a line, from either state -/

/-- **The comment spans of a line lie one after the other**, each covering at least one byte
of the line. -/
theorem scan_spans (state : LineState) :
    (∀ sp ∈ (bc.scan s state).1, sp.style = .comment ∧ sp.start < sp.stop ∧
      sp.stop ≤ s.byteLength) ∧
      (bc.scan s state).1.Pairwise fun a b => a.start < b.start ∧ a.stop ≤ b.start := by
  have hrounds : ∀ cursor, (∀ sp ∈ (bc.scanFrom s cursor).1, sp.style = .comment ∧
      sp.start < sp.stop ∧ sp.stop ≤ s.byteLength) ∧ (bc.scanFrom s cursor).1.Pairwise
        (fun a b => a.start < b.start ∧ a.stop ≤ b.start) := by
    intro cursor
    obtain ⟨hafter, hpair⟩ := scanFrom_spans hS hE cursor
    refine ⟨fun sp hsp => ⟨(hafter sp hsp).1, (hafter sp hsp).2.2⟩,
      hpair.imp_of_mem fun ha _ hab => ⟨by have := hafter _ ha; omega, hab⟩⟩
  cases state with
  | code => exact hrounds 0
  | comment =>
    cases hclose : bc.stop.findIn s 0 with
    | none =>
      rw [scan_comment_of_none hclose]
      unfold commentSpan
      split
      · exact ⟨fun sp hsp => by rw [List.mem_singleton.1 hsp]; exact ⟨rfl, ‹_›, Nat.le_refl _⟩,
          List.pairwise_singleton _ _⟩
      · exact ⟨fun _ h => absurd h List.not_mem_nil, .nil⟩
    | some c =>
      rw [scan_comment_of_closer hE hclose]
      obtain ⟨-, h₂, h₃⟩ := hE 0 c hclose
      obtain ⟨hafter, hpair⟩ := hrounds c.whole.2
      have hfrom := (scanFrom_spans hS hE c.whole.2).1
      refine ⟨fun sp hsp => ?_, .cons (fun sp hsp => ?_) hpair⟩
      · rcases List.mem_cons.1 hsp with rfl | hsp
        · exact ⟨rfl, by dsimp only; omega, h₃⟩
        · exact hafter sp hsp
      · have := hfrom sp hsp
        exact ⟨by dsimp only; omega, this.2.1⟩

/-- **A line ends inside a comment exactly when** it is empty and continues one, or its last
comment has no closer: the last span ends at the end of the line, and the closer has no match
from the end of the opener that began it, found from where the spans before it end, or from the
start of the line when that comment is the one the line continues. -/
theorem scan_comment_iff (state : LineState) :
    (bc.scan s state).2 = .comment ↔
      (s.byteLength = 0 ∧ state = .comment) ∨
        ∃ B sp, (bc.scan s state).1 = B ++ [sp] ∧ sp.stop = s.byteLength ∧
          if state = .comment ∧ B = [] then bc.stop.findIn s 0 = none
          else ∃ o, bc.start.findNext s (cursorAfter 0 B) = some o ∧ o.whole.1 = sp.start ∧
            bc.stop.findIn s o.whole.2 = none := by
  cases state with
  | code => simp [scan, scanFrom_comment_iff hS hE]
  | comment =>
    cases hclose : bc.stop.findIn s 0 with
    | none =>
      rw [scan_comment_of_none hclose]
      refine iff_of_true rfl ?_
      by_cases hlen : s.byteLength = 0
      · exact .inl ⟨hlen, rfl⟩
      · refine .inr ⟨[], _, by rw [commentSpan_of_lt (by omega)]; rfl, rfl, ?_⟩
        simp
    | some c =>
      rw [scan_comment_of_closer hE hclose]
      obtain ⟨-, h₂, h₃⟩ := hE 0 c hclose
      dsimp only
      rw [scanFrom_comment_iff hS hE]
      constructor
      · rintro ⟨B, sp, hB, hsp⟩
        refine .inr ⟨⟨0, c.whole.2, .comment⟩ :: B, sp, by rw [hB]; rfl, hsp.1, ?_⟩
        simpa using hsp.2
      · rintro (⟨hlen, -⟩ | ⟨B, sp, hB, hstop, hlast⟩)
        · omega
        · rcases B with _ | ⟨b, B⟩
          · -- the continued comment is closed on this line
            simp at hlast
          · simp only [List.cons_append, List.cons.injEq] at hB
            obtain ⟨rfl, hB⟩ := hB
            simp only [reduceCtorEq, and_false, if_false, cursorAfter_cons] at hlast
            exact ⟨B, sp, hB, hstop, hlast⟩

theorem findNext_cursorAfter_scan (state : LineState) (h : (bc.scan s state).2 = .code) :
    bc.start.findNext s (cursorAfter 0 (bc.scan s state).1) = none := by
  cases state with
  | code => exact findNext_cursorAfter_scanFrom hS hE 0 h
  | comment =>
    cases hclose : bc.stop.findIn s 0 with
    | none =>
      rw [scan_comment_of_none hclose] at h
      cases h
    | some c =>
      rw [scan_comment_of_closer hE hclose] at h ⊢
      dsimp only at h ⊢
      rw [cursorAfter_cons]
      exact findNext_cursorAfter_scanFrom hS hE c.whole.2 h

end Rounds

end BlockComment

namespace Pattern

open Regex

theorem new_openAngle :
    Pattern.new "<" = .ok ⟨"<", 0, .set ⟨[(60, 60)]⟩, Expr.compile (.set ⟨[(60, 60)]⟩)⟩ :=
  withGroup_of_reading rfl (by cbv) (by decide) (by decide) (by decide)

theorem new_closeAngle :
    Pattern.new ">" = .ok ⟨">", 0, .set ⟨[(62, 62)]⟩, Expr.compile (.set ⟨[(62, 62)]⟩)⟩ :=
  withGroup_of_reading rfl (by cbv) (by decide) (by decide) (by decide)

theorem new_findNext_empty_line_of_empty_class :
    ∃ p, Pattern.new "x|\\B[^\\s\\S]*" = .ok p ∧
      p.findNext (Subject.ofString "") 0 = some ⟨(0, 0), some (0, 0)⟩ := by
  let opener : Expr :=
    .alt (.set ⟨[(120, 120)]⟩) (.cat (.look (.notWordBoundary true)) (.rep 0 none true (.set ⟨[]⟩)))
  refine ⟨⟨"x|\\B[^\\s\\S]*", 0, opener, opener.compile⟩,
    withGroup_of_reading rfl (by cbv) (by decide) (by decide) (by decide), ?_⟩
  rw [findNext]
  simp only [opener, findIn, Subject.ofString, String.foldl_eq_foldl_toList]
  decide +kernel

end Pattern

namespace Grammar

open Regex

theorem tokenizeLine_of_blockComment {g : Grammar} {bc : BlockComment}
    (hbc : g.blockComment = some bc) (text : String) (state : LineState) :
    g.tokenizeLine text state = ⟨g.ruleSpans (Subject.ofString text) ++
      (bc.scan (Subject.ofString text) state).1, (bc.scan (Subject.ofString text) state).2⟩ := by
  simp [tokenizeLine, hbc]

/-- **The block-comment scan is well structured.**  With delimiters of known least length the
rules' spans do not depend on the state, the comment spans after them lie in order within the
line, and the line ends inside a comment exactly when its last comment finds no closer. -/
theorem tokenizeLine_comment_scan {g : Grammar} {bc : BlockComment}
    (hbc : g.blockComment = some bc) {opener closer : String}
    (hopen : Pattern.new opener = .ok bc.start) (hclose : Pattern.new closer = .ok bc.stop)
    (hknownOpen : ∀ parsed, parsePattern opener = .ok parsed → parsed.tree.minLen.isSome)
    (hknownClose : ∀ parsed, parsePattern closer = .ok parsed → parsed.tree.minLen.isSome)
    (text : String) (state : LineState) :
    let s := Subject.ofString text
    let B := (bc.scan s state).1
    (g.tokenizeLine text state).spans = g.ruleSpans s ++ B ∧
      (∀ sp ∈ B, sp.style = .comment ∧ sp.start < sp.stop ∧ sp.stop ≤ text.utf8ByteSize) ∧
      B.Pairwise (fun a b => a.start < b.start ∧ a.stop ≤ b.start) ∧
      (state = .comment → text ≠ "" → B.head? =
        some ⟨0, ((bc.stop.findAt text 0).map (·.whole.2)).getD text.utf8ByteSize, .comment⟩) ∧
      ((g.tokenizeLine text state).endState = .comment ↔
        (text = "" ∧ state = .comment) ∨
          ∃ B' sp, B = B' ++ [sp] ∧ sp.stop = text.utf8ByteSize ∧
            if state = .comment ∧ B' = [] then bc.stop.findAt text 0 = none
            else ∃ o, bc.start.findNext s (BlockComment.cursorAfter 0 B') = some o ∧
              o.whole.1 = sp.start ∧ bc.stop.findAt text o.whole.2 = none) ∧
      ((g.tokenizeLine text state).endState = .code →
        bc.start.findNext s (BlockComment.cursorAfter 0 B) = none) := by
  intro s B
  have hS := Pattern.advances_of_withGroup hopen hknownOpen text
  have hE := Pattern.advances_of_withGroup hclose hknownClose text
  have hlen : s.byteLength = text.utf8ByteSize := Subject.byteLength_ofString text
  obtain ⟨hspans, hpair⟩ := BlockComment.scan_spans hS hE state
  rw [tokenizeLine_of_blockComment hbc]
  refine ⟨rfl, fun sp hsp => hlen ▸ hspans sp hsp, hpair, fun hstate hne => ?_, ?_,
    BlockComment.findNext_cursorAfter_scan hS hE state⟩
  · subst hstate
    have hpos : 0 < s.byteLength := by
      rw [hlen]
      exact Nat.pos_of_ne_zero (mt String.utf8ByteSize_eq_zero_iff.1 hne)
    rw [← hlen]
    exact BlockComment.scan_comment_head hE hpos
  · rw [← hlen, ← String.utf8ByteSize_eq_zero_iff, ← hlen]
    exact BlockComment.scan_comment_iff hS hE state

/-- The comment scan of a line with a comment between `<` and `>` and another left open. -/
theorem tokenizeLine_comment_scan_of_angles :
    ∃ (g : Grammar) (bc : BlockComment), g.blockComment = some bc ∧
      Pattern.new "<" = .ok bc.start ∧ Pattern.new ">" = .ok bc.stop ∧
      (∀ parsed, parsePattern "<" = .ok parsed → parsed.tree.minLen.isSome) ∧
      (∀ parsed, parsePattern ">" = .ok parsed → parsed.tree.minLen.isSome) ∧
      let s := Subject.ofString "a>b<c"
      let B := (bc.scan s .comment).1
      (g.tokenizeLine "a>b<c" .comment).spans = g.ruleSpans s ++ B ∧
        (∀ sp ∈ B, sp.style = .comment ∧ sp.start < sp.stop ∧ sp.stop ≤ "a>b<c".utf8ByteSize) ∧
        B.Pairwise (fun a b => a.start < b.start ∧ a.stop ≤ b.start) ∧
        (LineState.comment = .comment → "a>b<c" ≠ "" → B.head? =
          some ⟨0, ((bc.stop.findAt "a>b<c" 0).map (·.whole.2)).getD "a>b<c".utf8ByteSize,
            .comment⟩) ∧
        ((g.tokenizeLine "a>b<c" .comment).endState = .comment ↔
          ("a>b<c" = "" ∧ LineState.comment = .comment) ∨
            ∃ B' sp, B = B' ++ [sp] ∧ sp.stop = "a>b<c".utf8ByteSize ∧
              if LineState.comment = .comment ∧ B' = [] then bc.stop.findAt "a>b<c" 0 = none
              else ∃ o, bc.start.findNext s (BlockComment.cursorAfter 0 B') = some o ∧
                o.whole.1 = sp.start ∧ bc.stop.findAt "a>b<c" o.whole.2 = none) ∧
        ((g.tokenizeLine "a>b<c" .comment).endState = .code →
          bc.start.findNext s (BlockComment.cursorAfter 0 B) = none) := by
  have hopen := Pattern.new_openAngle
  have hclose := Pattern.new_closeAngle
  have hknownOpen : ∀ parsed, parsePattern "<" = .ok parsed → parsed.tree.minLen.isSome :=
    Pattern.known_of_minLen (k := 1) (by cbv)
  have hknownClose : ∀ parsed, parsePattern ">" = .ok parsed → parsed.tree.minLen.isSome :=
    Pattern.known_of_minLen (k := 1) (by cbv)
  let bc : BlockComment := ⟨⟨"<", 0, .set ⟨[(60, 60)]⟩, Expr.compile (.set ⟨[(60, 60)]⟩)⟩,
    ⟨">", 0, .set ⟨[(62, 62)]⟩, Expr.compile (.set ⟨[(62, 62)]⟩)⟩⟩
  let g : Grammar := { name := "angles", blockComment := some bc }
  exact ⟨g, bc, rfl, hopen, hclose, hknownOpen, hknownClose,
    tokenizeLine_comment_scan rfl hopen hclose hknownOpen hknownClose "a>b<c" .comment⟩

/-- **An opener that matches the empty text ends an empty line in a comment.**  The class of
`x|\B[^\s\S]*` has no member, so the opener has no least length and is accepted; on an empty
line in code it matches at the start, and no closer follows. -/
theorem tokenizeLine_empty_line_comment_of_empty_class :
    ((Grammar.named "g").rule "x" .keyword >>= fun g =>
      g.setBlockComment "x|\\B[^\\s\\S]*" "y").map (·.tokenizeLine "" .code) =
      .ok ⟨[], .comment⟩ := by
  obtain ⟨po, hopen, ho⟩ := Pattern.new_findNext_empty_line_of_empty_class
  let px : Pattern := ⟨"x", 0, .set ⟨[(120, 120)]⟩, Expr.compile (.set ⟨[(120, 120)]⟩)⟩
  let pc : Pattern := ⟨"y", 0, .set ⟨[(121, 121)]⟩, Expr.compile (.set ⟨[(121, 121)]⟩)⟩
  have hrule : Pattern.withGroup "x" 0 = .ok px :=
    Pattern.withGroup_of_reading rfl (by cbv) (by decide) (by decide) (by decide)
  have hclose : Pattern.new "y" = .ok pc :=
    Pattern.withGroup_of_reading rfl (by cbv) (by decide) (by decide) (by decide)
  have hx : px.findNext (Subject.ofString "") 0 = none := by
    rw [Pattern.findNext]
    simp only [px, Pattern.findIn, Subject.ofString, String.foldl_eq_foldl_toList]
    decide +kernel
  have hc : pc.findIn (Subject.ofString "") 0 = none := by
    simp only [pc, Pattern.findIn, Subject.ofString, String.foldl_eq_foldl_toList]
    decide +kernel
  have hrules : px.matchesFrom (Subject.ofString "") 0 = [] := by
    rw [Pattern.matchesFrom, hx]
  have hscan : BlockComment.scanFrom ⟨po, pc⟩ (Subject.ofString "") 0 = ([], .comment) := by
    rw [BlockComment.scanFrom, ho]
    simp [hc, commentSpan]
  simp only [Grammar.rule, Grammar.groupRule, Grammar.setBlockComment, hrule, hopen, hclose, bind,
    Except.bind, pure, Except.pure, Except.map, Except.ok.injEq]
  simp [Grammar.tokenizeLine, Grammar.ruleSpans, Rule.spans, Pattern.quoteAwareMatches,
    BlockComment.scan, Grammar.named, hrules, hscan]

end Grammar

end Highlight
