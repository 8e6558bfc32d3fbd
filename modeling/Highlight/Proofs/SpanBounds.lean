import Highlight.Grammar.Tokenize
import Highlight.Proofs.QuoteAware

/-!
# The spans of a line are well formed

Every span that `Grammar.tokenizeLine` gives a line runs between two character boundaries of the
line, the first strictly before the second (`Subject.OnBoundaries`): so it covers at least one
byte, ends within the line, and its text can be sliced out (`Span.WellFormed`,
`Subject.OnBoundaries.isSome_text?`).  The spans come from two places:

* a rule gives the styled part of each quote-aware match, kept when it is not empty; a match and
  its styled group run between character boundaries (`Pattern.findIn_spec`), and each match ends
  before the next starts, so the spans of one rule lie one after the other
  (`Rule.spans_ordered`);
* a block comment runs from an opener's start to a closer's end, or to the end of the line, or
  from the start of the line (`BlockComment.onBoundaries_scan`).
-/

namespace Highlight

open Regex

/-- A span covers at least one byte of the line, and both its ends are positions of the line. -/
structure Span.WellFormed (sp : Span) (text : String) : Prop where
  lt : sp.start < sp.stop
  le_length : sp.stop ≤ text.utf8ByteSize
  validStart : String.Pos.Raw.IsValid text ⟨sp.start⟩
  validStop : String.Pos.Raw.IsValid text ⟨sp.stop⟩

namespace Subject

/-- A span runs between two character boundaries of the line, the first before the second. -/
def OnBoundaries (s : Subject) (sp : Span) : Prop :=
  ∃ i j, i < j ∧ j ≤ s.chars.size ∧ sp.start = s.byteAt i ∧ sp.stop = s.byteAt j

variable {text : String} {sp : Span}

theorem OnBoundaries.wellFormed (h : (ofString text).OnBoundaries sp) : sp.WellFormed text := by
  obtain ⟨i, j, hij, hj, hstart, hstop⟩ := h
  have hj' : j ≤ text.toList.length := by simpa using hj
  refine ⟨?_, ?_, ?_, ?_⟩
  · rw [hstart, hstop]
    exact byteAt_lt_byteAt hij hj
  · rw [hstop]
    exact byteAt_le_byteLength hj
  · rw [hstart, byteAt_ofString (by omega)]
    exact isValid_byteOffset text (by omega)
  · rw [hstop, byteAt_ofString hj']
    exact isValid_byteOffset text hj'

theorem OnBoundaries.isSome_text? (h : (ofString text).OnBoundaries sp) :
    (sp.text? text).isSome := by
  obtain ⟨i, j, hij, hj, hstart, hstop⟩ := h
  rw [Span.text?, hstart, hstop]
  exact isSome_slice? (Nat.le_of_lt hij) hj

theorem onBoundaries_commentSpan {i j : Nat} (hi : i ≤ (ofString text).chars.size)
    (hj : j ≤ (ofString text).chars.size) :
    ∀ sp ∈ commentSpan ((ofString text).byteAt i) ((ofString text).byteAt j),
      (ofString text).OnBoundaries sp := by
  intro sp hsp
  unfold commentSpan at hsp
  split at hsp
  · rename_i hlt
    rw [List.mem_singleton.1 hsp]
    exact ⟨i, j, lt_of_byteAt_lt hi hlt, hj, rfl, rfl⟩
  · cases hsp

end Subject

namespace Pattern

variable {p : Pattern} {s : Subject}

/-- **The quote-aware matches lie one after the other.** For a compiled pattern, every
quote-aware match of a line from `start` is one the plain search finds, it starts at or after
`start`, and each ends at or before the start of every later one. -/
theorem matchesFrom_ordered (hp : p.Compiled) (text : String) (start : Nat) :
    (∀ m ∈ p.matchesFrom (Subject.ofString text) start,
      start ≤ m.whole.1 ∧ ∃ start', p.findIn (Subject.ofString text) start' = some m) ∧
      (p.matchesFrom (Subject.ofString text) start).Pairwise
        (fun m m' => m.whole.2 ≤ m'.whole.1) := by
  fun_induction p.matchesFrom (Subject.ofString text) start with
  | case1 => exact ⟨fun _ hm => absurd hm List.not_mem_nil, .nil⟩
  | case2 start m hnext hg ih =>
    obtain ⟨hafter, hpair⟩ := ih
    obtain ⟨start', hle, hfind⟩ := findIn_of_findNext start m hnext
    obtain ⟨h₁, h₂, -⟩ := findIn_ofString_bounds hp hfind
    refine ⟨fun m' hm' => ?_, .cons (fun m' hm' => (hafter m' hm').1) hpair⟩
    rcases List.mem_cons.1 hm' with rfl | hm'
    · exact ⟨by omega, start', hfind⟩
    · obtain ⟨h₃, h₄⟩ := hafter m' hm'
      exact ⟨by omega, h₄⟩
  | case3 start m hnext hg =>
    obtain ⟨start', hle, hfind⟩ := findIn_of_findNext start m hnext
    obtain ⟨h₁, -⟩ := findIn_ofString_bounds hp hfind
    refine ⟨fun m' hm' => ?_, List.pairwise_singleton _ _⟩
    rw [List.mem_singleton.1 hm']
    exact ⟨by omega, start', hfind⟩

end Pattern

namespace Rule

theorem styledSpan_eq_some {r : Rule} {m : Match} {sp : Span} :
    r.styledSpan m = some sp ↔ ∃ a b, m.styled = some (a, b) ∧ a < b ∧ sp = ⟨a, b, r.style⟩ := by
  constructor
  · intro h
    unfold styledSpan at h
    split at h
    · rename_i a b hab
      split at h
      · rename_i hlt
        cases h
        exact ⟨a, b, hab, hlt, rfl⟩
      · cases h
    · cases h
  · rintro ⟨a, b, hab, hlt, rfl⟩
    simp [styledSpan, hab, hlt]

variable {r : Rule} (hp : r.pattern.Compiled) (text : String)
include hp

theorem styledSpan_inside {m : Match} (hm : m ∈ r.pattern.quoteAwareMatches (Subject.ofString text))
    {sp : Span} (hsp : r.styledSpan m = some sp) :
    (Subject.ofString text).OnBoundaries sp ∧ m.whole.1 ≤ sp.start ∧ sp.stop ≤ m.whole.2 := by
  obtain ⟨-, start', hfind⟩ := (Pattern.matchesFrom_ordered hp text 0).1 m hm
  obtain ⟨-, a, b, -, hab, hb, hwhole, -, hstyled⟩ := Pattern.findIn_spec hp hfind
  obtain ⟨x, y, hxy, hlt, rfl⟩ := styledSpan_eq_some.1 hsp
  obtain ⟨x', y', hax, hxy', hyb, hr⟩ := hstyled (x, y) hxy
  simp only [Prod.mk.injEq] at hr
  obtain ⟨rfl, rfl⟩ := hr
  rw [hwhole]
  exact ⟨⟨x', y', Subject.lt_of_byteAt_lt (by omega) hlt, by omega, rfl, rfl⟩,
    Subject.byteAt_le_byteAt hax (by omega), Subject.byteAt_le_byteAt hyb hb⟩

theorem onBoundaries_spans :
    ∀ sp ∈ r.spans (Subject.ofString text), (Subject.ofString text).OnBoundaries sp := by
  intro sp hsp
  obtain ⟨m, hm, hsp⟩ := List.mem_filterMap.1 hsp
  exact (styledSpan_inside hp text hm hsp).1

/-- **The spans of one rule lie one after the other.** Each starts after the one before it
ends. -/
theorem spans_ordered :
    (r.spans (Subject.ofString text)).Pairwise (fun a b => a.start < b.start ∧ a.stop ≤ b.start) := by
  obtain ⟨-, hpair⟩ := Pattern.matchesFrom_ordered hp text 0
  refine List.pairwise_filterMap.2 (hpair.imp_of_mem fun hm hm' hle sp hsp sp' hsp' => ?_)
  obtain ⟨⟨i, j, hij, hj, hstart, hstop⟩, h₁, h₂⟩ := styledSpan_inside hp text hm hsp
  obtain ⟨-, h₃, -⟩ := styledSpan_inside hp text hm' hsp'
  -- the span ends inside its match, which ends before the next match and its span start
  have hlt : sp.start < sp.stop := by
    rw [hstart, hstop]
    exact Subject.byteAt_lt_byteAt hij hj
  exact ⟨by omega, by omega⟩

end Rule

namespace BlockComment

variable {bc : BlockComment} (hstart : bc.start.Compiled) (hstop : bc.stop.Compiled)
  (text : String)
include hstart hstop

theorem onBoundaries_opener_closer {cursor : Nat} {o c : Match}
    (hopen : bc.start.findNext (Subject.ofString text) cursor = some o)
    (hclose : bc.stop.findIn (Subject.ofString text) o.whole.2 = some c) :
    ∀ sp ∈ commentSpan o.whole.1 c.whole.2, (Subject.ofString text).OnBoundaries sp := by
  obtain ⟨start', -, hfind⟩ := Pattern.findIn_of_findNext cursor o hopen
  obtain ⟨-, a, b, -, hab, hb, hwhole, -⟩ := Pattern.findIn_spec hstart hfind
  obtain ⟨-, a', b', -, hab', hb', hwhole', -⟩ := Pattern.findIn_spec hstop hclose
  rw [hwhole, hwhole']
  exact Subject.onBoundaries_commentSpan (by omega) hb'

theorem onBoundaries_scanFrom (cursor : Nat) :
    ∀ sp ∈ (bc.scanFrom (Subject.ofString text) cursor).1, (Subject.ofString text).OnBoundaries sp := by
  fun_induction bc.scanFrom (Subject.ofString text) cursor with
  | case1 => exact fun _ hsp => absurd hsp List.not_mem_nil
  | case2 cursor o hopen hclose =>
    -- an opener with no closer after it makes a comment to the end of the line
    obtain ⟨start', -, hfind⟩ := Pattern.findIn_of_findNext cursor o hopen
    obtain ⟨-, a, b, -, hab, hb, hwhole, -⟩ := Pattern.findIn_spec hstart hfind
    rw [hwhole, Subject.byteLength_eq_byteAt]
    exact Subject.onBoundaries_commentSpan (by omega) (Nat.le_refl _)
  | case3 cursor o hopen c hclose hg rest st hrest ih =>
    rw [hrest] at ih
    intro sp hsp
    rcases List.mem_append.1 hsp with hsp | hsp
    · exact onBoundaries_opener_closer hstart hstop text hopen hclose sp hsp
    · exact ih sp hsp
  | case4 cursor o hopen c hclose hg =>
    exact onBoundaries_opener_closer hstart hstop text hopen hclose

theorem onBoundaries_scan (state : LineState) :
    ∀ sp ∈ (bc.scan (Subject.ofString text) state).1, (Subject.ofString text).OnBoundaries sp := by
  cases state with
  | code => exact onBoundaries_scanFrom hstart hstop text 0
  | comment =>
    -- a line that starts inside a comment is a comment up to the first closer
    simp only [scan]
    split
    · rw [← Subject.byteAt_zero text, Subject.byteLength_eq_byteAt]
      exact Subject.onBoundaries_commentSpan (Nat.zero_le _) (Nat.le_refl _)
    · rename_i c hclose
      obtain ⟨-, a, b, -, hab, hb, hwhole, -⟩ := Pattern.findIn_spec hstop hclose
      have hrest := onBoundaries_scanFrom hstart hstop text c.whole.2
      rcases hscan : bc.scanFrom (Subject.ofString text) c.whole.2 with ⟨rest, st⟩
      rw [hscan] at hrest
      intro sp hsp
      rcases List.mem_append.1 hsp with hsp | hsp
      · rw [← Subject.byteAt_zero text, hwhole] at hsp
        exact Subject.onBoundaries_commentSpan (Nat.zero_le _) hb sp hsp
      · exact hrest sp hsp

end BlockComment

namespace Grammar

/-- A grammar whose patterns were all compiled from their source: each rule's by
`Pattern.withGroup`, the comment delimiters by `Pattern.new`. -/
structure Built (g : Grammar) : Prop where
  rules : ∀ r ∈ g.rules, ∃ source k, Pattern.withGroup source k = .ok r.pattern
  blockComment : ∀ bc, g.blockComment = some bc →
    (∃ source, Pattern.new source = .ok bc.start) ∧ ∃ source, Pattern.new source = .ok bc.stop

theorem Built.onBoundaries_tokenizeLine {g : Grammar} (hg : g.Built) (text : String)
    (state : LineState) :
    ∀ sp ∈ (g.tokenizeLine text state).spans, (Subject.ofString text).OnBoundaries sp := by
  have hrule : ∀ sp ∈ g.ruleSpans (Subject.ofString text),
      (Subject.ofString text).OnBoundaries sp := by
    intro sp hsp
    obtain ⟨r, hr, hsp⟩ := List.mem_flatMap.1 hsp
    obtain ⟨source, k, hk⟩ := hg.rules r hr
    exact Rule.onBoundaries_spans (Pattern.compiled_of_withGroup hk) text sp hsp
  -- the rules' spans come first, then the comments laid over them
  unfold tokenizeLine
  split
  · exact hrule
  · rename_i bc hbc
    obtain ⟨⟨a, ha⟩, ⟨b, hb⟩⟩ := hg.blockComment bc hbc
    intro sp hsp
    rcases List.mem_append.1 hsp with hsp | hsp
    · exact hrule sp hsp
    · exact BlockComment.onBoundaries_scan (Pattern.compiled_of_withGroup ha)
        (Pattern.compiled_of_withGroup hb) text state sp hsp

/-- **Every span of a highlighted line is well formed** when the grammar was compiled from source,
and the spans of each rule lie one after the other. -/
theorem tokenizeLine_spans_wellFormed {g : Grammar}
    (hrules : ∀ r ∈ g.rules, ∃ source k, Pattern.withGroup source k = .ok r.pattern)
    (hcomment : ∀ bc, g.blockComment = some bc →
      (∃ source, Pattern.new source = .ok bc.start) ∧ ∃ source, Pattern.new source = .ok bc.stop)
    (text : String) (state : LineState) :
    (∀ sp ∈ (g.tokenizeLine text state).spans, sp.WellFormed text ∧ (sp.text? text).isSome) ∧
      ∀ r ∈ g.rules, (r.spans (Subject.ofString text)).Pairwise
        (fun a b => a.start < b.start ∧ a.stop ≤ b.start) := by
  have hbound := Built.onBoundaries_tokenizeLine ⟨hrules, hcomment⟩ text state
  refine ⟨fun sp hsp => ⟨(hbound sp hsp).wellFormed, (hbound sp hsp).isSome_text?⟩,
    fun r hr => ?_⟩
  obtain ⟨source, k, hk⟩ := hrules r hr
  exact Rule.spans_ordered (Pattern.compiled_of_withGroup hk) text

/-- The spans of a grammar with one rule for runs of `a` and comments between `<` and `>`. -/
theorem tokenizeLine_spans_of_angles :
    ∃ g : Grammar, (∀ r ∈ g.rules, ∃ source k, Pattern.withGroup source k = .ok r.pattern) ∧
      (∀ bc, g.blockComment = some bc →
        (∃ source, Pattern.new source = .ok bc.start) ∧ ∃ source, Pattern.new source = .ok bc.stop) ∧
      (∀ sp ∈ (g.tokenizeLine "aa<a>a" .code).spans,
        sp.WellFormed "aa<a>a" ∧ (sp.text? "aa<a>a").isSome) ∧
      ∀ r ∈ g.rules, (r.spans (Subject.ofString "aa<a>a")).Pairwise
        (fun a b => a.start < b.start ∧ a.stop ≤ b.start) := by
  have hopen : Pattern.new "<" = .ok ⟨"<", 0, .set ⟨[(60, 60)]⟩, Expr.compile (.set ⟨[(60, 60)]⟩)⟩ :=
    Pattern.withGroup_of_reading rfl (by cbv) (by decide) (by decide) (by decide)
  have hclose : Pattern.new ">" = .ok ⟨">", 0, .set ⟨[(62, 62)]⟩, Expr.compile (.set ⟨[(62, 62)]⟩)⟩ :=
    Pattern.withGroup_of_reading rfl (by cbv) (by decide) (by decide) (by decide)
  let g : Grammar :=
    { name := "angles",
      rules := [⟨⟨"a+", 0, .rep 1 none true (.set ⟨[(97, 97)]⟩),
        Expr.compile (.rep 1 none true (.set ⟨[(97, 97)]⟩))⟩, .keyword⟩],
      blockComment := some ⟨⟨"<", 0, .set ⟨[(60, 60)]⟩, Expr.compile (.set ⟨[(60, 60)]⟩)⟩,
        ⟨">", 0, .set ⟨[(62, 62)]⟩, Expr.compile (.set ⟨[(62, 62)]⟩)⟩⟩ }
  have hrules : ∀ r ∈ g.rules, ∃ source k, Pattern.withGroup source k = .ok r.pattern := by
    intro r hr
    rw [List.mem_singleton.1 hr]
    exact ⟨"a+", 0, Pattern.withGroup_plus⟩
  have hcomment : ∀ bc, g.blockComment = some bc →
      (∃ source, Pattern.new source = .ok bc.start) ∧ ∃ source, Pattern.new source = .ok bc.stop := by
    intro bc hbc
    cases Option.some.inj hbc
    exact ⟨⟨"<", hopen⟩, ⟨">", hclose⟩⟩
  exact ⟨g, hrules, hcomment, tokenizeLine_spans_wellFormed hrules hcomment "aa<a>a" .code⟩

end Grammar

end Highlight
