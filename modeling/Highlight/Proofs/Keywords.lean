import Mathlib
import Highlight.Proofs.Completeness
import Highlight.Proofs.ScriptOperators

/-!
# Keywords of the scripting language

The scripting language styles its keywords by the rule `\b(?:and|break|…|while)\b`, with the
twenty-two keywords in the order `scriptKeywords` lists them.  The alternation lists some words
before longer ones that start with them (`else` before `elseif`), so the depth-first search may
read the shorter word first; the word boundary after it then fails inside the longer word and the
search goes on to the next member.  Read as traversals none of this matters: a traversal from a
position reads a keyword between two word boundaries, and as a keyword is made of word
characters, that is exactly a maximal run of word characters that spells a keyword
(`keyword_of_traverse`, `traverse_of_keyword`).  There is one such traversal, so the search
answers it (`Pattern.findIn_keyword_first`).

From any position the search finds the first maximal run that spells a keyword, and the next
search starts at its end (`keywordSpans_from`).  No other rule styles a keyword and comments are
not keywords, so the keyword spans of a line are one span over each maximal run of word
characters that spells a keyword and starts outside quotes, left to right
(`Grammar.scriptGrammar_keyword_spans`).
-/

namespace Highlight

/-- Whether character `x` of a list is a word character. -/
def wordAt (cs : List Char) (x : Nat) : Bool := (cs[x]?.map Unicode.isWordChar).getD false

/-- The run of word characters from index `i` on. -/
def wordRun (cs : List Char) (i : Nat) : List Char := (cs.drop i).takeWhile Unicode.isWordChar

/-- Whether a maximal run of word characters starts at index `i` and spells a keyword. -/
def keywordAt (cs : List Char) (i : Nat) : Bool :=
  (i == 0 || !wordAt cs (i - 1)) && decide (String.ofList (wordRun cs i) ∈ scriptKeywords)

/-! ## Runs of word characters -/

theorem keywords_words : ∀ w ∈ scriptKeywords,
    w.toList ≠ [] ∧ ∀ c ∈ w.toList, Unicode.isWordChar c = true := by
  have h : (scriptKeywords.all fun w => !w.toList.isEmpty && w.toList.all Unicode.isWordChar) = true := by
    cbv
  simpa [List.all_eq_true] using h

section WordRun

variable {cs : List Char} {i : Nat}

theorem getElem?_of_prefix {w : List Char} (h : w <+: cs.drop i) {x : Nat} (hx : x < w.length) :
    cs[i + x]? = w[x]? := by
  rw [← List.getElem?_drop, List.getElem?_eq_getElem hx, List.getElem?_eq_getElem
    (Nat.lt_of_lt_of_le hx h.length_le), h.getElem hx]

theorem wordAt_of_prefix {w : List Char} (h : w <+: cs.drop i) (hw : ∀ c ∈ w, Unicode.isWordChar c)
    {x : Nat} (hx : x < w.length) : wordAt cs (i + x) = true := by
  rw [wordAt, getElem?_of_prefix h hx, List.getElem?_eq_getElem hx]
  exact hw _ (List.getElem_mem hx)

theorem wordAt_of_lt_wordRun {x : Nat} (hx : x < (wordRun cs i).length) : wordAt cs (i + x) = true :=
  wordAt_of_prefix (List.takeWhile_prefix _) (fun _ hc => List.mem_takeWhile_imp hc) hx

theorem wordAt_wordRun_length : wordAt cs (i + (wordRun cs i).length) = false := by
  have hsplit := List.takeWhile_append_dropWhile (p := Unicode.isWordChar) (l := cs.drop i)
  have hstop := List.head?_dropWhile_not Unicode.isWordChar (cs.drop i)
  rw [wordAt, ← List.getElem?_drop, ← hsplit, wordRun, List.getElem?_append_right (Nat.le_refl _),
    Nat.sub_self, ← List.head?_eq_getElem?]
  cases hd : (List.dropWhile Unicode.isWordChar (cs.drop i)).head? with
  | none => rfl
  | some c =>
    rw [hd] at hstop
    simp [hstop]

theorem wordRun_eq {w : List Char} (h : w <+: cs.drop i) (hw : ∀ c ∈ w, Unicode.isWordChar c)
    (hend : wordAt cs (i + w.length) = false) : wordRun cs i = w := by
  obtain ⟨rest, hrest⟩ := h
  have hhead : ∀ c, rest.head? = some c → Unicode.isWordChar c = false := by
    intro c hc
    have : cs[i + w.length]? = some c := by
      rw [← List.getElem?_drop, ← hrest, List.getElem?_append_right (Nat.le_refl _), Nat.sub_self,
        ← List.head?_eq_getElem?, hc]
    simpa [wordAt, this] using hend
  rw [wordRun, ← hrest, List.takeWhile_append_of_pos hw]
  cases rest with
  | nil => simp
  | cons c rest => simp [hhead c rfl]

theorem add_wordRun_length_le (h : i ≤ cs.length) : i + (wordRun cs i).length ≤ cs.length := by
  have := (List.takeWhile_prefix (p := Unicode.isWordChar) (l := cs.drop i)).length_le
  simp only [wordRun, List.length_drop] at this ⊢
  omega

theorem wordRun_ne_nil_of_keywordAt (h : keywordAt cs i = true) : wordRun cs i ≠ [] := by
  simp only [keywordAt, Bool.and_eq_true, decide_eq_true_eq] at h
  have hne := (keywords_words _ h.2).1
  rwa [String.toList_ofList] at hne

theorem lt_length_of_keywordAt (h : keywordAt cs i = true) : i < cs.length := by
  have hne := wordRun_ne_nil_of_keywordAt h
  by_contra hge
  simp [wordRun, List.drop_eq_nil_of_le (Nat.le_of_not_lt hge)] at hne

end WordRun

namespace Subject

@[simp] theorem toList_chars_ofString (t : String) : (ofString t).chars.toList = t.toList := rfl

end Subject

namespace Regex

/-- The expression that the keyword rule `\b(?:and|…|while)\b` reads as. -/
def keywordExpr : Expr :=
  .cat (.look (.wordBoundary true))
    (.cat (Expr.alts (scriptKeywords.map fun w => Expr.literal w.toList)) (.look (.wordBoundary true)))

theorem keywordProgram_targets : keywordExpr.compile.Targets := by decide

theorem keywordProgram_ranked : keywordExpr.compile.Ranked id := by decide

theorem holds_wordBoundary (cs : Array Char) (pos : Nat) :
    Look.holds (.wordBoundary true) cs pos =
      ((pos != 0 && wordAt cs.toList (pos - 1)) != wordAt cs.toList pos) := by
  have hword : isWordFor true = Unicode.isWordChar := by
    funext c
    simp [isWordFor]
  by_cases h : pos = 0 <;> simp [Look.holds, wordAt, hword, h]

variable {cs : Array Char} {i j : Nat} {σ τ : Array (Option Nat)}

/-- **What the keyword rule reads**: a keyword between two word boundaries. -/
theorem Expr.traverse_keyword_iff :
    Expr.Traverse cs keywordExpr i σ j τ ↔ τ = σ ∧ Look.holds (.wordBoundary true) cs i = true ∧
      Look.holds (.wordBoundary true) cs j = true ∧
      ∃ w ∈ scriptKeywords, j = i + w.toList.length ∧ w.toList <+: cs.toList.drop i := by
  have hne : scriptKeywords.map (fun w => Expr.literal w.toList) ≠ [] := by simp [scriptKeywords]
  constructor
  · intro h
    cases h with
    | cat hstart hrest =>
      cases hstart with
      | look hb₁ =>
        cases hrest with
        | cat hword hend =>
          cases hend with
          | look hb₂ =>
            obtain ⟨e, he, htr⟩ := (Expr.traverse_alts_iff hne).1 hword
            obtain ⟨w, hw, rfl⟩ := List.mem_map.1 he
            obtain ⟨rfl, rfl, hpre⟩ := (Expr.traverse_literal_iff _).1 htr
            exact ⟨rfl, hb₁, hb₂, w, hw, rfl, hpre⟩
  · rintro ⟨rfl, hb₁, hb₂, w, hw, rfl, hpre⟩
    refine .cat (.look hb₁) (.cat ((Expr.traverse_alts_iff hne).2 ⟨_, List.mem_map_of_mem hw, ?_⟩)
      (.look hb₂))
    exact (Expr.traverse_literal_iff _).2 ⟨rfl, rfl, hpre⟩

theorem keyword_of_traverse (h : Expr.Traverse cs keywordExpr i σ j τ) :
    keywordAt cs.toList i = true ∧ j = i + (wordRun cs.toList i).length ∧ τ = σ := by
  obtain ⟨rfl, hb₁, hb₂, w, hw, rfl, hpre⟩ := Expr.traverse_keyword_iff.1 h
  obtain ⟨hne, hword⟩ := keywords_words w hw
  have hlen : 0 < w.toList.length := List.length_pos_iff.2 hne
  have hfirst : wordAt cs.toList i = true := by
    simpa using wordAt_of_prefix hpre hword hlen
  have hlast : wordAt cs.toList (i + w.toList.length - 1) = true := by
    have := wordAt_of_prefix hpre hword (x := w.toList.length - 1) (by omega)
    rwa [← Nat.add_sub_assoc (by omega)] at this
  rw [holds_wordBoundary, hfirst] at hb₁
  rw [holds_wordBoundary, hlast, show (i + w.toList.length != 0) = true by simp [hne]] at hb₂
  have hend : wordAt cs.toList (i + w.toList.length) = false := by simpa using hb₂
  have hrun : wordRun cs.toList i = w.toList := wordRun_eq hpre hword hend
  refine ⟨?_, by rw [hrun], rfl⟩
  have hleft : (i == 0 || !wordAt cs.toList (i - 1)) = true := by
    by_cases hi : i = 0 <;> simp_all
  simp [keywordAt, hleft, hrun, hw]

theorem traverse_of_keyword (h : keywordAt cs.toList i = true) :
    Expr.Traverse cs keywordExpr i σ (i + (wordRun cs.toList i).length) σ := by
  simp only [keywordAt, Bool.and_eq_true, decide_eq_true_eq] at h
  obtain ⟨hleft, hkw⟩ := h
  obtain ⟨hne, -⟩ := keywords_words _ hkw
  rw [String.toList_ofList] at hne
  have hlen : 0 < (wordRun cs.toList i).length := List.length_pos_iff.2 hne
  have hfirst : wordAt cs.toList i = true := by simpa using wordAt_of_lt_wordRun hlen
  have hlast : wordAt cs.toList (i + (wordRun cs.toList i).length - 1) = true := by
    have := @wordAt_of_lt_wordRun cs.toList i ((wordRun cs.toList i).length - 1) (by omega)
    rwa [← Nat.add_sub_assoc (by omega)] at this
  refine Expr.traverse_keyword_iff.2 ⟨rfl, ?_, ?_, _, hkw, by simp, by simp [wordRun, List.takeWhile_prefix]⟩
  · rw [holds_wordBoundary, hfirst]
    by_cases hi : i = 0 <;> simp_all
  · rw [holds_wordBoundary, hlast, wordAt_wordRun_length]
    simp [hne]

end Regex

namespace Pattern

open Regex Subject

/-- The pattern of the keyword rule, styling the whole match. -/
def keywordPattern : Pattern :=
  ⟨"\\b(?:" ++ "|".intercalate scriptKeywords ++ ")\\b", 0, keywordExpr, keywordExpr.compile⟩

set_option maxRecDepth 8000 in
theorem reading_keywords : (parsePattern ("\\b(?:" ++ "|".intercalate scriptKeywords ++ ")\\b")).map
    (fun p => (p.expr, p.tree.minLen, p.tree.automatonBound)) = .ok (keywordExpr, some 2, 10796) := by
  cbv

set_option maxRecDepth 8000 in
theorem withGroup_keywords :
    withGroup ("\\b(?:" ++ "|".intercalate scriptKeywords ++ ")\\b") 0 = .ok keywordPattern :=
  withGroup_of_reading (by decide) reading_keywords (by decide) (by decide) (by decide)

theorem known_keywords : ∀ parsed,
    parsePattern ("\\b(?:" ++ "|".intercalate scriptKeywords ++ ")\\b") = .ok parsed →
      parsed.tree.minLen.isSome := by
  intro parsed h
  have hread := reading_keywords
  rw [h] at hread
  simp only [Except.map, Except.ok.injEq, Prod.mk.injEq] at hread
  rw [hread.2.1]
  rfl

section Line

variable {t : String}

theorem not_traverse_keyword {s : Nat} (hs : keywordAt t.toList s = false) (k : Nat)
    (ρ : Array (Option Nat)) :
    ¬ Expr.Traverse (ofString t).chars (.capture 0 keywordExpr) s
      (Array.replicate (2 * keywordExpr.groupCount) none) k ρ := by
  intro htr
  cases htr with
  | capture hinner =>
    have := (keyword_of_traverse hinner).1
    simp_all

theorem findIn_keyword_first {x i : Nat} (hxi : x ≤ i) (hi : keywordAt t.toList i = true)
    (hbefore : ∀ y, x ≤ y → y < i → keywordAt t.toList y = false) :
    keywordPattern.findIn (ofString t) ((ofString t).byteAt x) =
      some ⟨((ofString t).byteAt i, (ofString t).byteAt (i + (wordRun t.toList i).length)),
        some ((ofString t).byteAt i, (ofString t).byteAt (i + (wordRun t.toList i).length))⟩ := by
  have hlt := lt_length_of_keywordAt hi
  have hj := add_wordRun_length_le hlt.le
  have hx : x ≤ (ofString t).chars.size := by simp only [size_chars_ofString]; omega
  have hsearch : keywordExpr.compile.search (ofString t).chars x =
      some (((Array.replicate (2 * keywordExpr.groupCount) none).setIfInBounds (2 * 0)
        (some i)).setIfInBounds (2 * 0 + 1) (some (i + (wordRun t.toList i).length))) := by
    refine Expr.search_eq_of_unique keywordProgram_targets keywordProgram_ranked (by decide) hxi
      (by simp only [size_chars_ofString]; omega) (fun s h₁ h₂ => not_traverse_keyword (hbefore s h₁ h₂))
      (.capture (traverse_of_keyword hi)) fun _ _ h =>
        h.capture_eq_of_unique fun _ _ hinner => (keyword_of_traverse hinner).2
  have hle := byteAt_le_byteLength hx
  rw [findIn, if_neg (by simp only [byteLength_ofString]; omega), charIndex_byteAt hx]
  simp only [keywordPattern, hsearch]
  simp [show keywordExpr.groupCount = 1 from rfl]

theorem findIn_keyword_none {x : Nat} (hx : x ≤ (ofString t).chars.size)
    (hnone : ∀ y, x ≤ y → keywordAt t.toList y = false) :
    keywordPattern.findIn (ofString t) ((ofString t).byteAt x) = none := by
  have hsearch : keywordExpr.compile.search (ofString t).chars x = none :=
    Program.search_eq_none keywordProgram_targets keywordProgram_ranked fun s h₁ h₂ =>
      Expr.pick_none_of_not_traverse keywordProgram_targets keywordProgram_ranked h₂
        (not_traverse_keyword (hnone s h₁))
  have hle := byteAt_le_byteLength hx
  rw [findIn, if_neg (by simp only [byteLength_ofString]; omega), charIndex_byteAt hx]
  simp [keywordPattern, hsearch]

end Line

end Pattern

section Line

open Subject Pattern

variable {t : String} (st : Style)

theorem scanStep_keyword {x : Nat} (hx : x ≤ (ofString t).chars.size) :
    Rule.ScanStep ⟨keywordPattern, st⟩ (ofString t) (keywordAt t.toList)
      (fun i => i + (wordRun t.toList i).length) (fun _ => True) x := by
  by_cases hex : ∃ i, x ≤ i ∧ keywordAt t.toList i = true
  · -- the search stops at the first keyword from `x` on
    obtain ⟨i, ⟨hxi, hi⟩, hmin⟩ : ∃ i, (x ≤ i ∧ keywordAt t.toList i = true) ∧
        ∀ y < i, ¬(x ≤ y ∧ keywordAt t.toList y = true) :=
      ⟨Nat.find hex, Nat.find_spec hex, fun y hy => Nat.find_min hex hy⟩
    have hbefore : ∀ y, x ≤ y → y < i → keywordAt t.toList y = false := fun y h₁ h₂ => by
      simpa using fun h => hmin y h₂ ⟨h₁, h⟩
    have hij : i < i + (wordRun t.toList i).length := by
      have := List.length_pos_iff.2 (wordRun_ne_nil_of_keywordAt hi)
      omega
    have hjn : i + (wordRun t.toList i).length ≤ (ofString t).chars.size := by
      simpa using add_wordRun_length_le (lt_length_of_keywordAt hi).le
    -- no keyword starts inside the run: each position in it follows a word character
    have hinside : ∀ y, i < y → y < i + (wordRun t.toList i).length → keywordAt t.toList y = false := by
      intro y h₁ h₂
      have hw := @wordAt_of_lt_wordRun t.toList i (y - 1 - i) (by omega)
      rw [show i + (y - 1 - i) = y - 1 by omega] at hw
      simp [keywordAt, hw, show y ≠ 0 by omega]
    refine .inr ⟨i, i + (wordRun t.toList i).length, _, hxi, hij, hjn, trivial,
      findIn_keyword_first hxi hi hbefore, fun y h₁ h₂ hne => ?_, ?_⟩
    · rcases Nat.lt_or_gt_of_ne hne with h | h
      · exact hbefore y h₁ h
      · exact hinside y h h₂
    · simp [Rule.styledSpan, hi, byteAt_lt_byteAt hij hjn]
  · -- no keyword from `x` on: the search finds nothing
    have hnone : ∀ y, x ≤ y → keywordAt t.toList y = false := fun y h₁ => by
      simpa using fun h => hex ⟨y, h₁, h⟩
    exact .inl ⟨findIn_keyword_none hx hnone, fun y h₁ _ => hnone y h₁⟩

theorem keywordSpans_from (x : Nat) (hx : x ≤ (ofString t).chars.size) :
    ((keywordPattern.plainMatchesFrom (ofString t) ((ofString t).byteAt x)).filter
        fun m => !(ofString t).betweenQuotes m.whole.1).filterMap (Rule.styledSpan ⟨keywordPattern, st⟩) =
      ((List.range' x ((ofString t).chars.size - x)).filter fun i =>
          keywordAt t.toList i && !(ofString t).betweenQuotes ((ofString t).byteAt i)).map
        fun i => ⟨(ofString t).byteAt i, (ofString t).byteAt (i + (wordRun t.toList i).length), st⟩ :=
  Rule.spans_from_of_scanStep (advances_of_withGroup withGroup_keywords known_keywords t)
    (fun _ hx _ => scanStep_keyword st hx) x hx trivial

/-- **The spans of the keyword rule over a line:** one over each maximal run of word characters
that spells a keyword and starts outside quotes, left to right. -/
theorem spans_keywordRule :
    Rule.spans ⟨keywordPattern, st⟩ (ofString t) =
      ((List.range t.toList.length).filter fun i =>
          keywordAt t.toList i && !betweenQuotes t (byteOffset t.toList i)).map
        fun i => ⟨byteOffset t.toList i, byteOffset t.toList (i + (wordRun t.toList i).length), st⟩ := by
  have hadv := advances_of_withGroup withGroup_keywords known_keywords t
  have hall := keywordSpans_from (t := t) st 0 (Nat.zero_le _)
  rw [byteAt_zero, ← matchesFrom_eq_filter hadv, Nat.sub_zero, ← List.range_eq_range',
    size_chars_ofString] at hall
  rw [Rule.spans, quoteAwareMatches, hall]
  -- at a character boundary the two ways of counting quotes agree, and offsets are byte offsets
  have hmem : ∀ i ∈ List.range t.toList.length, i ≤ (ofString t).chars.size := fun i hi => by
    simp only [List.mem_range] at hi
    simp only [size_chars_ofString]
    omega
  rw [List.filter_congr fun i hi => by rw [betweenQuotes_byteAt (hmem i hi),
    byteAt_ofString (by simpa using hmem i hi)]]
  refine List.map_congr_left fun i hi => ?_
  have hi' : i < t.toList.length := List.mem_range.1 (List.mem_filter.1 hi).1
  rw [byteAt_ofString hi'.le, byteAt_ofString (add_wordRun_length_le hi'.le)]

end Line

namespace Grammar

open Pattern

theorem scriptGrammar_rules_keyword :
    ∃ B, scriptGrammar.rules = ⟨keywordPattern, .keyword⟩ :: B ∧ ∀ r ∈ B, r.style ≠ .keyword := by
  let f : String × Nat × Style → Option Rule :=
    fun e => (withGroup e.1 e.2.1).toOption.map fun p => ⟨p, e.2.2⟩
  refine ⟨List.filterMap f [
      ("\\b0[xX][0-9a-fA-F]+\\b|\\b\\d+(?:\\.\\d+)?(?:[eE][-+]?\\d+)?\\b", 0, .number),
      ("[+*/%^#&|~<>=()\x7b\x7d\\[\\];:,.]+", 0, .operator),
      ("(-)(?:[^-]|$)|--+", 1, .operator),
      ("\"[^\"]*\"", 0, .value),
      ("'[^']*'", 0, .value),
      ("\\[\\[.*?\\]\\]", 0, .value),
      ("--(?:\\[?$|\\[?[^\\[].*)", 0, .comment)], ?_, ?_⟩
  · have hkw : f ("\\b(?:" ++ "|".intercalate scriptKeywords ++ ")\\b", 0, .keyword) =
        some ⟨keywordPattern, .keyword⟩ := by
      simp [f, withGroup_keywords, Except.toOption]
    simp only [scriptGrammar, rules_withBlockComment, rules_withRules]
    rw [← List.filterMap_cons_some hkw,
      show ((named "script").addExtension "lua").rules = [] from rfl, List.nil_append]
  · intro r hr
    obtain ⟨e, he, hfe⟩ := List.mem_filterMap.1 hr
    have hst : r.style = e.2.2 := by
      simp only [f] at hfe
      cases hw : withGroup e.1 e.2.1 <;> simp_all [Except.toOption]
      rw [← hfe]
    simp only [List.mem_cons, List.not_mem_nil, or_false] at he
    rcases he with rfl | rfl | rfl | rfl | rfl | rfl | rfl <;> simp [hst]

/-- **Keywords are whole words outside strings.**  On any line, from either state, the keyword
spans of the scripting language are one span over each maximal run of word characters that
spells one of its keywords and starts after an even number of `"` bytes, in order: a keyword
inside a longer word, as `or` in `order` or `end` in `endless`, gets none. -/
theorem scriptGrammar_keyword_spans (t : String) (state : LineState) :
    (scriptGrammar.tokenizeLine t state).spans.filter (fun sp => sp.style = .keyword) =
      ((List.range t.toList.length).filter fun i =>
          keywordAt t.toList i && !betweenQuotes t (byteOffset t.toList i)).map
        fun i => ⟨byteOffset t.toList i, byteOffset t.toList (i + (wordRun t.toList i).length),
          .keyword⟩ := by
  obtain ⟨C, hC, hcomments⟩ := tokenizeLine_spans_comments scriptGrammar t state
  obtain ⟨B, hrules, hothers⟩ := scriptGrammar_rules_keyword
  have hkw : ((Rule.spans ⟨keywordPattern, .keyword⟩ (Subject.ofString t)).filter fun sp =>
      sp.style = .keyword) = Rule.spans ⟨keywordPattern, .keyword⟩ (Subject.ofString t) :=
    List.filter_eq_self.2 fun sp hsp => by simp [Rule.style_of_mem_spans hsp]
  have hB : ((B.flatMap fun r => r.spans (Subject.ofString t)).filter fun sp =>
      sp.style = .keyword) = [] :=
    List.filter_eq_nil_iff.2 fun sp hsp => by
      obtain ⟨r, hr, hsp⟩ := List.mem_flatMap.1 hsp
      simp [Rule.style_of_mem_spans hsp, hothers r hr]
  have hC' : (C.filter fun sp => sp.style = .keyword) = [] :=
    List.filter_eq_nil_iff.2 fun sp hsp => by simp [hcomments sp hsp]
  rw [hC, List.filter_append, hC', List.append_nil, ruleSpans, hrules, List.flatMap_cons,
    List.filter_append, hkw, hB, List.append_nil, spans_keywordRule]

end Grammar

end Highlight
