import Mathlib
import Highlight.Proofs.MinusRule
import Highlight.Proofs.AsciiBytes
import Highlight.Proofs.CommentScan
import Highlight.Grammar.Builtin

/-!
# Which minus signs the scripting language styles as operators

The scripting language has two rules that style operators: one for a run of operator characters,
none of which is `-`, and the minus rule (`Highlight.Proofs.MinusRule`).  Its other rules style
keywords, numbers, strings and comments, and the comment scan lays only comment spans over the
line.  So the operator spans that read as `-` are exactly the spans of the minus rule
(`scriptGrammar_dash_spans`): one over each lone minus sign outside quotes.

In bytes, a `-` is one byte and no byte of a longer character is ASCII, so a lone minus sign is a
`-` byte with no `-` byte on either side (`loneMinus_bytes`), and the spans are one byte wide
(`scriptGrammar_minus_operators`).
-/

namespace Highlight

namespace Regex

namespace Expr

variable {cs : Array Char}

theorem search_rep_set {c : CharClass} {hi : Option Nat} {greedy : Bool} {start : Nat}
    {out : Array (Option Nat)}
    (h : (Expr.rep 1 hi greedy (.set c)).compile.search cs start = some out) :
    ∃ a b ch, a < b ∧ b ≤ cs.size ∧ out.getD 0 none = some a ∧ out.getD 1 none = some b ∧
      cs[a]? = some ch ∧ CharClass.searchRanges c.ranges.toArray ch.toNat = true := by
  obtain ⟨s, j, -, hsize, htr⟩ := traverse_of_search h
  cases htr with
  | capture hinner =>
    rename_i τ
    have hτ : τ.size = 2 := by simpa [groupCount, maxCapture] using hinner.size_eq
    have hj := hinner.le_size hsize
    -- the repetition records no group, so group `0` keeps the start it was opened with
    have hopen : τ[0]? = some (some s) := by
      rcases hinner.slots (by simp [groupCount, maxCapture]) 0 with hk | ⟨hg, -⟩
      · rw [hk.1, Array.getElem?_setIfInBounds_self_of_lt (by simp [groupCount, maxCapture])]
      · simp [hasGroup] at hg
    cases hinner with
    | repMore hset hrest =>
      cases hset with
      | set hch hin =>
        refine ⟨s, j, _, by have := hrest.le; omega, hj, ?_, ?_, hch, hin⟩
        · rw [Array.getD_eq_getD_getElem?, Array.getElem?_setIfInBounds_ne (by omega), hopen]
          rfl
        · rw [Array.getD_eq_getD_getElem?, Array.getElem?_setIfInBounds_self_of_lt (by omega)]
          rfl

end Expr

end Regex

namespace Subject

variable {t : String}

theorem slice?_byteAt {i j : Nat} (hij : i ≤ j) (hj : j ≤ (ofString t).chars.size) :
    (ofString t).slice? ((ofString t).byteAt i) ((ofString t).byteAt j) =
      some (String.ofList ((ofString t).chars.extract i j).toList) := by
  have hle := byteAt_le_byteAt hij hj
  have hend := byteAt_le_byteLength hj
  simp [slice?, charIndex_byteAt (Nat.le_trans hij hj), charIndex_byteAt hj, hle, hend]

end Subject

theorem ofList_extract_succ {cs : Array Char} {j : Nat} {c : Char} (h : cs[j]? = some c) :
    String.ofList (cs.extract j (j + 1)).toList = String.ofList [c] := by
  rw [Array.toList_extract, List.extract_eq_take_drop, Nat.add_sub_cancel_left, List.take_one,
    List.head?_drop, Array.getElem?_toList, h]
  rfl

theorem getElem?_of_ofList_extract {cs : Array Char} {i j : Nat}
    (h : String.ofList (cs.extract i j).toList = "-") : cs[i]? = some '-' := by
  have hl := congrArg String.toList h
  rw [String.toList_ofList, show "-".toList = ['-'] from rfl] at hl
  have h0 := congrArg (·[0]?) hl
  simp only [Array.getElem?_toList, Array.getElem?_extract, List.getElem?_cons_zero] at h0
  split at h0
  · simpa using h0
  · cases h0

namespace Pattern

open Regex

/-- **A match of one or more of a class starts with a member of it.** For a pattern that styles
the whole of such a match, the styled part runs between two character boundaries, at least one
character apart, and the first character is in the class. -/
theorem findIn_rep_set {p : Pattern} (hp : p.Compiled) {c : CharClass} {hi : Option Nat}
    {greedy : Bool} (hr : p.regex = .rep 1 hi greedy (.set c)) (hg : p.group = 0) {s : Subject}
    {start : Nat} {m : Match} (h : p.findIn s start = some m) :
    ∃ a b ch, a < b ∧ b ≤ s.chars.size ∧ m.styled = some (s.byteAt a, s.byteAt b) ∧
      s.chars[a]? = some ch ∧ CharClass.searchRanges c.ranges.toArray ch.toNat = true := by
  obtain ⟨out, -, -, -, hsearch, -, -, -, hstyled⟩ := findIn_eq_some h
  rw [hp.program, hr] at hsearch
  obtain ⟨a, b, ch, hab, hb, h0, h1, hch, hin⟩ := Expr.search_rep_set hsearch
  have hsome := (hstyled _).2 ⟨a, b, by rw [hg, h0], by rw [hg, h1], rfl⟩
  exact ⟨a, b, ch, hab, hb, hsome, hch, hin⟩

/-- The characters the scripting language's operator rule runs over: `-` is not one of them. -/
def operatorClass : CharClass :=
  ⟨[(35, 35), (37, 38), (40, 44), (46, 47), (58, 62), (91, 91), (93, 94), (123, 126)]⟩

set_option maxRecDepth 4000 in
theorem reading_operators : (parsePattern "[+*/%^#&|~<>=()\x7b\x7d\\[\\];:,.]+").map (·.expr) =
    .ok (.rep 1 none true (.set operatorClass)) := by
  cbv

theorem text?_ne_dash_of_operators {p : Pattern}
    (h : withGroup "[+*/%^#&|~<>=()\x7b\x7d\\[\\];:,.]+" 0 = .ok p) {st : Style} {t : String}
    {sp : Span} (hsp : sp ∈ Rule.spans ⟨p, st⟩ (Subject.ofString t)) :
    sp.text? t ≠ some "-" := by
  obtain ⟨m, hm, hsm⟩ := List.mem_filterMap.1 hsp
  have hp := compiled_of_withGroup h
  obtain ⟨-, start', hfind⟩ := (matchesFrom_ordered hp t 0).1 m hm
  obtain ⟨parsed, hparse, -, -, rfl⟩ := withGroup_eq_ok h
  have hread := reading_operators
  rw [hparse] at hread
  simp only [Except.map, Except.ok.injEq] at hread
  obtain ⟨a, b, ch, hab, hb, hstyled, hch, hin⟩ := findIn_rep_set hp hread rfl hfind
  obtain ⟨x, y, hxy, -, rfl⟩ := Rule.styledSpan_eq_some.1 hsm
  rw [hstyled, Option.some.injEq, Prod.mk.injEq] at hxy
  obtain ⟨rfl, rfl⟩ := hxy
  rw [Span.text?, Subject.slice?_byteAt (Nat.le_of_lt hab) hb]
  intro htext
  rw [getElem?_of_ofList_extract (Option.some.inj htext), Option.some.injEq] at hch
  subst hch
  rw [CharClass.searchRanges_eq_any (by decide)] at hin
  exact absurd hin (by decide)

end Pattern

/-! ## Which rules a built grammar has -/

namespace Grammar

open Pattern

theorem rules_withRule (g : Grammar) (source : String) (group : Nat) (style : Style) :
    (g.withRule source group style).rules =
      g.rules ++ ((withGroup source group).toOption.map fun p => ⟨p, style⟩).toList := by
  unfold withRule orKeep groupRule
  cases withGroup source group <;> simp [Except.toOption, bind, Except.bind, pure, Except.pure]

theorem rules_withRules (rules : List (String × Nat × Style)) :
    ∀ g : Grammar, (g.withRules rules).rules =
      g.rules ++ rules.filterMap fun e => (withGroup e.1 e.2.1).toOption.map fun p => ⟨p, e.2.2⟩ := by
  induction rules with
  | nil => intro g; simp [withRules]
  | cons rule rules ih =>
    intro g
    simp only [withRules, List.foldl_cons] at ih ⊢
    rw [ih, rules_withRule, List.filterMap_cons]
    cases (withGroup rule.1 rule.2.1).toOption <;> simp

theorem rules_withBlockComment (g : Grammar) (start stop : String) :
    (g.withBlockComment start stop).rules = g.rules := by
  unfold withBlockComment orKeep setBlockComment
  cases Pattern.new start <;> cases Pattern.new stop <;> rfl

theorem scriptGrammar_rules : ∃ A B, scriptGrammar.rules = A ++ ⟨minusPattern, .operator⟩ :: B ∧
    ∀ r ∈ A ++ B, r.style ≠ .operator ∨
      ∃ p, withGroup "[+*/%^#&|~<>=()\x7b\x7d\\[\\];:,.]+" 0 = .ok p ∧ r = ⟨p, .operator⟩ := by
  let f : String × Nat × Style → Option Rule :=
    fun e => (withGroup e.1 e.2.1).toOption.map fun p => ⟨p, e.2.2⟩
  have hf : ∀ e r, f e = some r → ∃ p, withGroup e.1 e.2.1 = .ok p ∧ r = ⟨p, e.2.2⟩ := by
    intro e r h
    simp only [f] at h
    cases hw : withGroup e.1 e.2.1 <;> simp_all [Except.toOption]
  refine ⟨List.filterMap f [
      ("\\b(?:" ++ "|".intercalate scriptKeywords ++ ")\\b", 0, .keyword),
      ("\\b0[xX][0-9a-fA-F]+\\b|\\b\\d+(?:\\.\\d+)?(?:[eE][-+]?\\d+)?\\b", 0, .number),
      ("[+*/%^#&|~<>=()\x7b\x7d\\[\\];:,.]+", 0, .operator)],
    List.filterMap f [
      ("\"[^\"]*\"", 0, .value),
      ("'[^']*'", 0, .value),
      ("\\[\\[.*?\\]\\]", 0, .value),
      ("--(?:\\[?$|\\[?[^\\[].*)", 0, .comment)], ?_, ?_⟩
  · have hminus : f ("(-)(?:[^-]|$)|--+", 1, .operator) = some ⟨minusPattern, .operator⟩ := by
      simp [f, withGroup_minus, Except.toOption]
    simp only [scriptGrammar, rules_withBlockComment, rules_withRules]
    rw [← List.filterMap_cons_some hminus, ← List.filterMap_append,
      show ((named "script").addExtension "lua").rules = [] from rfl, List.nil_append]
    simp only [List.cons_append, List.nil_append]
    rfl
  · intro r hr
    rw [List.mem_append, List.mem_filterMap, List.mem_filterMap] at hr
    rcases hr with ⟨e, he, hfe⟩ | ⟨e, he, hfe⟩
    · obtain ⟨p, hp, rfl⟩ := hf e r hfe
      simp only [List.mem_cons, List.not_mem_nil, or_false] at he
      rcases he with rfl | rfl | rfl
      · exact .inl (by simp)
      · exact .inl (by simp)
      · exact .inr ⟨p, hp, rfl⟩
    · obtain ⟨p, -, rfl⟩ := hf e r hfe
      simp only [List.mem_cons, List.not_mem_nil, or_false] at he
      rcases he with rfl | rfl | rfl | rfl <;> exact .inl (by simp)

end Grammar

/-! ## Which spans style an operator -/

theorem Rule.style_of_mem_spans {r : Rule} {s : Subject} {sp : Span} (h : sp ∈ r.spans s) :
    sp.style = r.style := by
  obtain ⟨m, -, hsm⟩ := List.mem_filterMap.1 h
  obtain ⟨a, b, -, -, rfl⟩ := Rule.styledSpan_eq_some.1 hsm
  rfl

namespace BlockComment

theorem style_of_mem_commentSpan {a b : Nat} {sp : Span} (h : sp ∈ commentSpan a b) :
    sp.style = .comment := by
  unfold commentSpan at h
  split at h
  · rw [List.mem_singleton.1 h]
  · cases h

theorem style_of_mem_scanFrom (bc : BlockComment) (s : Subject) (cursor : Nat) :
    ∀ sp ∈ (bc.scanFrom s cursor).1, sp.style = .comment := by
  fun_induction bc.scanFrom s cursor with
  | case1 => simp
  | case2 => exact fun sp h => style_of_mem_commentSpan h
  | case3 cursor o hopen c hclose hg rest st hrest ih =>
    rw [hrest] at ih
    intro sp h
    rcases List.mem_append.1 h with h | h
    · exact style_of_mem_commentSpan h
    · exact ih sp h
  | case4 => exact fun sp h => style_of_mem_commentSpan h

theorem style_of_mem_scan (bc : BlockComment) (s : Subject) (state : LineState) :
    ∀ sp ∈ (bc.scan s state).1, sp.style = .comment := by
  cases state with
  | code => exact style_of_mem_scanFrom bc s 0
  | comment =>
    intro sp h
    cases hclose : bc.stop.findIn s 0 with
    | none =>
      simp only [scan, hclose] at h
      exact style_of_mem_commentSpan h
    | some c =>
      simp only [scan, hclose] at h
      rcases List.mem_append.1 h with h | h
      · exact style_of_mem_commentSpan h
      · exact style_of_mem_scanFrom bc s _ sp h

end BlockComment

namespace Grammar

theorem tokenizeLine_spans_comments (g : Grammar) (t : String) (state : LineState) :
    ∃ C, (g.tokenizeLine t state).spans = g.ruleSpans (Subject.ofString t) ++ C ∧
      ∀ sp ∈ C, sp.style = .comment := by
  cases hbc : g.blockComment with
  | none => exact ⟨[], by simp [tokenizeLine, hbc], by simp⟩
  | some bc =>
    exact ⟨_, by rw [tokenizeLine_of_blockComment hbc], BlockComment.style_of_mem_scan bc _ state⟩

end Grammar

/-! ## Lone minus signs, byte by byte -/

/-- **A lone minus sign, byte by byte.** Byte `p` of the encoding of a list of characters is a
`-` with no `-` byte on either side exactly when it starts a character that is a lone minus sign:
a `-` is one byte, and no byte of a longer character is ASCII. -/
theorem loneMinus_bytes (l : List Char) (p : Nat) :
    ((l.flatMap String.utf8EncodeChar)[p]? = some 45 ∧
      (p = 0 ∨ (l.flatMap String.utf8EncodeChar)[p - 1]? ≠ some 45) ∧
      (l.flatMap String.utf8EncodeChar)[p + 1]? ≠ some 45) ↔
    ∃ j, p = byteOffset l j ∧ loneMinus l.toArray j = true := by
  have hdash : ∀ q, (l.flatMap String.utf8EncodeChar)[q]? = some 45 ↔
      ∃ j, q = byteOffset l j ∧ l[j]? = some '-' :=
    getElem?_flatMap_ascii (c := '-') (by decide) l
  have hnext : ∀ j, l[j]? = some '-' → byteOffset l (j + 1) = byteOffset l j + 1 := by
    intro j hj
    obtain ⟨hlt, hget⟩ := List.getElem?_eq_some_iff.1 hj
    rw [byteOffset_succ l j hlt, hget]
    rfl
  have hlen : ∀ {j}, l[j]? = some '-' → j < l.length := fun hj => (List.getElem?_eq_some_iff.1 hj).1
  constructor
  · rintro ⟨hp, hprev, hafter⟩
    obtain ⟨j, rfl, hj⟩ := (hdash _).1 hp
    refine ⟨j, rfl, ?_⟩
    have hprev' : j = 0 ∨ l[j - 1]? ≠ some '-' := by
      rcases Nat.eq_zero_or_pos j with h0 | hpos
      · exact .inl h0
      · refine .inr fun hm => ?_
        have hoff : byteOffset l j = byteOffset l (j - 1) + 1 := by
          rw [← hnext (j - 1) hm, Nat.sub_add_cancel hpos]
        rcases hprev with h | h
        · have := byteOffset_lt_byteOffset hpos (hlen hj).le
          rw [byteOffset_zero] at this
          omega
        · exact h ((hdash _).2 ⟨j - 1, by omega, hm⟩)
    have hafter' : l[j + 1]? ≠ some '-' := fun hm =>
      hafter ((hdash _).2 ⟨j + 1, (hnext j hj).symm, hm⟩)
    rcases hprev' with rfl | h
    · simp [loneMinus, hj, hafter']
    · simp [loneMinus, hj, hafter', h]
  · rintro ⟨j, rfl, hlone⟩
    simp only [loneMinus, List.getElem?_toArray, Bool.and_eq_true, beq_iff_eq, Bool.or_eq_true,
      bne_iff_ne, ne_eq] at hlone
    obtain ⟨⟨hj, hprev⟩, hafter⟩ := hlone
    refine ⟨(hdash _).2 ⟨j, rfl, hj⟩, ?_, fun h => ?_⟩
    · rcases Nat.eq_zero_or_pos j with rfl | hpos
      · exact .inl (byteOffset_zero l)
      · refine .inr fun h => ?_
        obtain ⟨j', hj', hm⟩ := (hdash _).1 h
        have := byteOffset_lt_byteOffset hpos (hlen hj).le
        rw [byteOffset_zero] at this
        have hsucc : byteOffset l (j' + 1) = byteOffset l j := by rw [hnext j' hm]; omega
        have hjj := byteOffset_inj (hlen hm) (hlen hj).le hsucc
        rcases hprev with h0 | hne
        · omega
        · exact hne (by rw [show j - 1 = j' by omega]; exact hm)
    · obtain ⟨j', hj', hm⟩ := (hdash _).1 h
      have hjj := byteOffset_inj (hlen hj) (hlen hm).le (by rw [hnext j hj]; exact hj')
      subst hjj
      exact hafter hm

theorem offsets_loneMinus (t : String) :
    ((List.range (Subject.ofString t).chars.size).filter fun j =>
        loneMinus (Subject.ofString t).chars j && !betweenQuotes t ((Subject.ofString t).byteAt j)).map
      (Subject.ofString t).byteAt =
    (List.range t.utf8ByteSize).filter fun p =>
      t.toUTF8.toList[p]? = some '-'.toUInt8 ∧ (p = 0 ∨ t.toUTF8.toList[p - 1]? ≠ some '-'.toUInt8) ∧
        t.toUTF8.toList[p + 1]? ≠ some '-'.toUInt8 ∧ betweenQuotes t p = false := by
  have hbytes := loneMinus_bytes t.toList
  rw [← toList_toUTF8] at hbytes
  have hchars : (Subject.ofString t).chars = t.toList.toArray := rfl
  have hn : (Subject.ofString t).chars.size = t.toList.length := Subject.size_chars_ofString t
  refine List.Pairwise.eq_of_mem_iff (r := (· < ·)) ?_ (List.pairwise_lt_range.filter _) fun p => ?_
  · refine List.pairwise_map.2 ((List.pairwise_lt_range.filter _).imp_of_mem fun _ hb hab => ?_)
    exact Subject.byteAt_lt_byteAt hab (List.mem_range.1 (List.mem_filter.1 hb).1).le
  · simp only [List.mem_map, List.mem_filter, List.mem_range, Bool.and_eq_true, Bool.not_eq_true',
      decide_eq_true_eq, show '-'.toUInt8 = 45 from rfl]
    constructor
    · rintro ⟨j, ⟨hj, hlone, hq⟩, rfl⟩
      have hoff : (Subject.ofString t).byteAt j = byteOffset t.toList j :=
        Subject.byteAt_ofString (by omega)
      obtain ⟨h₁, h₂, h₃⟩ := (hbytes _).2 ⟨j, hoff, hchars ▸ hlone⟩
      refine ⟨?_, h₁, h₂, h₃, hq⟩
      rw [← Subject.byteLength_ofString, Subject.byteLength_eq_byteAt]
      exact Subject.byteAt_lt_byteAt hj le_rfl
    · rintro ⟨-, h₁, h₂, h₃, hq⟩
      obtain ⟨j, rfl, hlone⟩ := (hbytes _).1 ⟨h₁, h₂, h₃⟩
      have hj : j < t.toList.length := by
        simp only [loneMinus, List.getElem?_toArray, Bool.and_eq_true, beq_iff_eq] at hlone
        exact (List.getElem?_eq_some_iff.1 hlone.1.1).1
      have hoff : (Subject.ofString t).byteAt j = byteOffset t.toList j :=
        Subject.byteAt_ofString (by omega)
      exact ⟨j, ⟨by omega, hchars ▸ hlone, hoff ▸ hq⟩, hoff⟩

namespace Grammar

open Pattern

theorem scriptGrammar_dash_spans (t : String) (state : LineState) :
    ((scriptGrammar.tokenizeLine t state).spans.filter fun sp =>
        sp.style = .operator ∧ sp.text? t = some "-") =
      Rule.spans ⟨minusPattern, .operator⟩ (Subject.ofString t) := by
  obtain ⟨C, hC, hcomments⟩ := tokenizeLine_spans_comments scriptGrammar t state
  obtain ⟨A, B, hrules, hothers⟩ := scriptGrammar_rules
  have hnone : ∀ r ∈ A ++ B, ((r.spans (Subject.ofString t)).filter fun sp =>
      sp.style = .operator ∧ sp.text? t = some "-") = [] := by
    intro r hr
    refine List.filter_eq_nil_iff.2 fun sp hsp => ?_
    rcases hothers r hr with hst | ⟨p, hp, rfl⟩
    · simp [Rule.style_of_mem_spans hsp, hst]
    · simp [text?_ne_dash_of_operators hp hsp]
  have hall : ((Rule.spans ⟨minusPattern, .operator⟩ (Subject.ofString t)).filter fun sp =>
      sp.style = .operator ∧ sp.text? t = some "-") =
        Rule.spans ⟨minusPattern, .operator⟩ (Subject.ofString t) := by
    refine List.filter_eq_self.2 fun sp hsp => ?_
    rw [spans_minusRule] at hsp
    obtain ⟨j, hj, rfl⟩ := List.mem_map.1 hsp
    simp only [List.mem_filter, List.mem_range, Bool.and_eq_true, loneMinus, beq_iff_eq] at hj
    have hdash := hj.2.1.1.1
    have hlt := (Array.getElem?_eq_some_iff.1 hdash).1
    rw [Span.text?, Subject.slice?_byteAt (Nat.le_succ j) hlt, ofList_extract_succ hdash]
    simp
  have hC' : (C.filter fun sp => sp.style = .operator ∧ sp.text? t = some "-") = [] :=
    List.filter_eq_nil_iff.2 fun sp hsp => by simp [hcomments sp hsp]
  rw [hC, List.filter_append, hC', List.append_nil, ruleSpans, hrules, List.filter_flatMap,
    List.flatMap_append, List.flatMap_cons, hall,
    List.flatMap_eq_nil_iff.2 fun r hr => hnone r (List.mem_append_left B hr),
    List.flatMap_eq_nil_iff.2 fun r hr => hnone r (List.mem_append_right A hr), List.nil_append,
    List.append_nil]

/-- **Which minus signs the scripting language styles as operators.** On any line, from either
state, the operator spans that read as `-` are exactly one span `p`..`p + 1` for each byte `p`
of the line that is a `-` with no `-` byte on either side and an even number of `"` bytes before
it, in order.  A run of two or more `-` gives none. -/
theorem scriptGrammar_minus_operators (t : String) (state : LineState) :
    ((scriptGrammar.tokenizeLine t state).spans.filter fun sp =>
        sp.style = .operator ∧ sp.text? t = some "-") =
      ((List.range t.utf8ByteSize).filter fun p =>
        t.toUTF8.toList[p]? = some '-'.toUInt8 ∧ (p = 0 ∨ t.toUTF8.toList[p - 1]? ≠ some '-'.toUInt8) ∧
          t.toUTF8.toList[p + 1]? ≠ some '-'.toUInt8 ∧ betweenQuotes t p = false).map
        fun p => ⟨p, p + 1, .operator⟩ := by
  rw [scriptGrammar_dash_spans, spans_minusRule, ← offsets_loneMinus, List.map_map]
  refine List.map_congr_left fun j hj => ?_
  simp only [List.mem_filter, List.mem_range, Bool.and_eq_true, loneMinus, beq_iff_eq] at hj
  have hdash : t.toList[j]? = some '-' := by
    simpa [Subject.ofString] using hj.2.1.1.1
  have hlt : j < t.toList.length := (List.getElem?_eq_some_iff.1 hdash).1
  have hnext : (Subject.ofString t).byteAt (j + 1) = (Subject.ofString t).byteAt j + 1 := by
    rw [Subject.byteAt_ofString hlt, Subject.byteAt_ofString hlt.le, byteOffset_succ _ _ hlt,
      (List.getElem?_eq_some_iff.1 hdash).2]
    rfl
  simp [hnext]

end Grammar

end Highlight
