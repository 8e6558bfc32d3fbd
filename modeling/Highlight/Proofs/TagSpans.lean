import Mathlib
import Highlight.Proofs.MarkupTags
import Highlight.Proofs.Keywords

/-!
# Highlighting a tag

The markup grammar styles the line of a tag `<n a₁="v₁" … aₘ="vₘ">`, or one closed by `/>`,
rule by rule:

* the element rule finds the `<` and the tag's name, and nothing after them, since no other `<`
  stands outside quotes (`Tag.spans_markupElement`);
* the attribute rule finds each attribute's name in turn: after the name and `=` of one, every
  candidate in its value starts between quotes and stops at the closing quote, so that the search
  goes on at the next attribute (`Tag.attributeSpans_from`, by induction on the attributes still
  to come);
* the value rule pairs the quotes, which are those around the values (`Tag.valueSpans_from`);
* the operator rule finds the opening `<` and the closer, with only candidates between quotes in
  between (`Tag.spans_markupOperator`);
* the number rule, the comment rule and the comment opener find nothing: outside quotes no sign
  stands, no digit starts a word and no `<` comes before `!`.

`Grammar.markupGrammar_tag_spans` puts them together.
-/

namespace Highlight

namespace Tag

open Regex CharClass Pattern Subject

variable {g : Tag} {pre post : List TagAttribute} {a : TagAttribute}

theorem getElem?_chars_attrAt_add (h : g.attributes = pre ++ a :: post) {k : Nat}
    (hk : k < a.text.length) :
    (ofString g.text).chars[g.attrAt pre + k]? = a.text.toList[k]? := by
  rw [getElem?_chars_ofString, getElem?_attrAt_add h hk]

theorem getElem?_one : ∃ c, (ofString g.text).chars[1]? = some c ∧ isNameStart c = true := by
  have hpos := length_pos_of_isName g.name_isName
  obtain ⟨c, cs, hs, hc, -⟩ := isName_iff.1 g.name_isName
  refine ⟨c, ?_, hc⟩
  rw [getElem?_chars_ofString, getElem?_name hpos, hs]
  rfl

theorem byteAt_one : (ofString g.text).byteAt 1 = 1 := by
  rw [show g.text = "<" ++ (g.name ++ String.join (g.attributes.map TagAttribute.text) ++ g.closer) by
    simp [text, String.append_assoc]]
  exact byteAt_prefix "<" _

/-! ## The element rule -/

/-- **The element rule styles the tag's name**, and nothing else of the line. -/
theorem spans_markupElement (st : Style) :
    Rule.spans ⟨markupElement, st⟩ (ofString g.text) = [⟨1, (g.before []).utf8ByteSize, st⟩] := by
  have hnil := attrAt_nil (g := g)
  have hle := attrAt_nil_le_closerAt (g := g)
  have hpos := length_pos_of_isName g.name_isName
  have hsize : g.attrAt [] ≤ (ofString g.text).chars.size := by
    rw [size_chars]
    omega
  have hlt : (ofString g.text).chars[0]? = some '<' := by
    rw [getElem?_chars_ofString, getElem?_zero]
  obtain ⟨c, hfirst, hc⟩ := getElem?_one (g := g)
  have hrun : ∀ x, 0 + 2 ≤ x → x < g.attrAt [] → ∃ ch, (ofString g.text).chars[x]? = some ch ∧
      searchRanges markupNameClass.ranges.toArray ch.toNat = true := by
    intro x h₁ h₂
    obtain ⟨y, rfl⟩ : ∃ y, x = y + 1 := ⟨x - 1, by omega⟩
    have hlt' : y < g.name.toList.length := by
      rw [String.length_toList]
      omega
    refine ⟨g.name.toList[y], ?_, markupName_of_isNameChar
      (isNameChar_of_mem_isName g.name_isName (List.getElem_mem hlt'))⟩
    rw [getElem?_chars_ofString, getElem?_name (by omega), List.getElem?_eq_getElem hlt']
  have hstop : ∀ ch, (ofString g.text).chars[g.attrAt []]? = some ch →
      searchRanges markupNameClass.ranges.toArray ch.toNat = false := fun ch h => by
    rcases char_attrAt (show g.attributes = [] ++ g.attributes from rfl) h with rfl | rfl | rfl <;>
      exact not_markupName_of_mem (by decide)
  have hpick := Program.pick_markupElement hlt hfirst hc hrun hstop (by omega)
  have hprog : markupElement.regex.compile = markupElementProgram := compile_markupElementExpr
  have hfind : markupElement.findNext (ofString g.text) ((ofString g.text).byteAt 0) =
      some ⟨((ofString g.text).byteAt 0, (ofString g.text).byteAt (g.attrAt [])),
        some ((ofString g.text).byteAt 1, (ofString g.text).byteAt (g.attrAt []))⟩ :=
    findNext_eq_of_pick compiled_markupElement (f := markupElementProgram.quietRank)
      (hprog ▸ markupElementProgram_targets) (hprog ▸ markupElementProgram_ranked)
      (by decide) le_rfl (Nat.zero_le _) (fun b _ hb => absurd hb (Nat.not_lt_zero _))
      (hprog ▸ hpick) (betweenQuotes_of_le_attrAt_nil (Nat.zero_le _))
      (by simp) (by simp) (by simp [markupElement]) (by simp [markupElement])
  have hrest : markupElement.matchesFrom (ofString g.text) ((ofString g.text).byteAt (g.attrAt [])) =
      [] :=
    matchesFrom_eq_nil_of_leads compiled_markupElement markupElementExpr_leads hsize
      fun b hb hout ch hch hmem => by
        obtain rfl := List.mem_singleton.1 hmem
        rcases outside_cases hch hout with ⟨h₁, -⟩ | ⟨-, -, hname, -⟩ | ⟨-, -, hc'⟩ | ⟨-, hc'⟩
        · omega
        · exact absurd hname (by decide)
        · rcases hc' with h' | h' | h' <;> exact absurd h' (by decide)
        · rcases hc' with h' | h' <;> exact absurd h' (by decide)
  have hgrow : (ofString g.text).byteAt 0 < (ofString g.text).byteAt (g.attrAt []) :=
    byteAt_lt_byteAt (by omega) hsize
  have hname : (ofString g.text).byteAt 1 < (ofString g.text).byteAt (g.attrAt []) :=
    byteAt_lt_byteAt (by omega) hsize
  have hone := byteAt_one (g := g)
  have hbefore := byteAt_attrAt (show g.attributes = [] ++ g.attributes from rfl)
  rw [hone, hbefore] at hname
  rw [Rule.spans, quoteAwareMatches, ← byteAt_zero g.text,
    matchesFrom_of_findNext hfind ⟨hgrow, by simpa using byteAt_le_byteLength hsize⟩, hrest]
  simp [Rule.styledSpan, hname, hone, hbefore]

/-! ## The attribute rule -/

theorem isNameStart_of_leads_attrAt (h : g.attributes = pre ++ post) {ch : Char}
    (hch : (ofString g.text).chars[g.attrAt pre]? = some ch) : isNameStart ch = false := by
  rcases char_attrAt h hch with rfl | rfl | rfl <;> rfl

/-- **The attribute rule reads an attribute's name.**  From the first character of the name of
the attribute after `pre`, the one traversal of `(NAME)\s*=` reads the name as group `1` and the
`=` after it. -/
theorem traverse_markupAttribute_iff (h : g.attributes = pre ++ a :: post) {j : Nat}
    (σ ρ : Array (Option Nat)) :
    Expr.Traverse (ofString g.text).chars markupAttributeExpr (g.attrAt pre + 1) σ j ρ ↔
      j = g.attrAt pre + a.openAt ∧ ρ = (σ.setIfInBounds 2 (some (g.attrAt pre + 1))).setIfInBounds 3
        (some (g.attrAt pre + a.eqAt)) := by
  have hpos := a.positions
  have heqAt : (ofString g.text).chars[g.attrAt pre + a.eqAt]? = some '=' := by
    rw [getElem?_chars_attrAt_add h (by omega), TagAttribute.getElem?_eqAt]
  have hname : ∀ y, 0 < y → y < a.eqAt → ∃ ch, (ofString g.text).chars[g.attrAt pre + y]? = some ch ∧
      isNameChar ch = true ∧ (y = 1 → isNameStart ch = true) := by
    intro y h₁ h₂
    have hlt : y < a.text.toList.length := by
      rw [String.length_toList]
      omega
    have hget := List.getElem?_eq_getElem hlt
    refine ⟨a.text.toList[y], by rw [getElem?_chars_attrAt_add h (by omega), hget], ?_⟩
    rcases TagAttribute.char_cases hget with ⟨h₃, -⟩ | ⟨-, -, hc, hs⟩ | ⟨h₃, -⟩ | ⟨h₃, -⟩ | ⟨h₃, -⟩ |
      ⟨h₃, -⟩
    · omega
    · exact ⟨hc, hs⟩
    · omega
    · omega
    · omega
    · omega
  constructor
  · intro htr
    obtain ⟨j₁, j₂, h₁, h₂, rfl, -, hrun, hblank, heq, rfl⟩ := htr.markupAttribute_inv
    have hj₁ : j₁ ≤ g.attrAt pre + a.eqAt := by
      by_contra hlt
      obtain ⟨ch, hch, hin⟩ := hrun (g.attrAt pre + a.eqAt) (by omega) (by omega)
      rw [heqAt, Option.some.injEq] at hch
      subst hch
      rw [not_markupName_of_mem (by decide)] at hin
      cases hin
    -- and not before it: a name character is neither a blank nor the `=`
    obtain rfl : j₁ = g.attrAt pre + a.eqAt := by
      by_contra hne
      obtain ⟨ch, hch, hc, -⟩ := hname (j₁ - g.attrAt pre) (by omega) (by omega)
      rw [Nat.add_sub_cancel' (by omega)] at hch
      rcases Nat.eq_or_lt_of_le h₂ with rfl | hlt
      · rw [heq, Option.some.injEq] at hch
        subst hch
        exact absurd hc (by decide)
      · obtain ⟨d, hd, hin⟩ := hblank j₁ le_rfl hlt
        rw [hch, Option.some.injEq] at hd
        subst hd
        rw [not_space_of_isNameChar hc] at hin
        cases hin
    -- no blank follows the name, so the `=` is the one after it
    obtain rfl : j₂ = g.attrAt pre + a.eqAt := by
      by_contra hne
      obtain ⟨d, hd, hin⟩ := hblank (g.attrAt pre + a.eqAt) le_rfl (by omega)
      rw [heqAt, Option.some.injEq] at hd
      subst hd
      rw [searchRanges_space_ascii (by decide)] at hin
      exact absurd hin (by decide)
    exact ⟨by omega, rfl⟩
  · rintro ⟨rfl, rfl⟩
    obtain ⟨c, hc, -, hstart⟩ := hname 1 (by omega) (by omega)
    have hrest : ∀ σ' : Array (Option Nat), Expr.Traverse (ofString g.text).chars
        (.rep 0 none true (.set markupNameClass)) (g.attrAt pre + 1 + 1) σ' (g.attrAt pre + a.eqAt) σ' :=
      fun σ' => Expr.Traverse.rep_set_of_run σ' (by omega) fun x h₁ h₂ => by
        obtain ⟨ch, hch, hc', -⟩ := hname (x - g.attrAt pre) (by omega) (by omega)
        rw [Nat.add_sub_cancel' (by omega)] at hch
        exact ⟨ch, hch, markupName_of_isNameChar hc'⟩
    have hblanks : ∀ σ' : Array (Option Nat), Expr.Traverse (ofString g.text).chars
        (.rep 0 none true (.set (shortClass true .space))) (g.attrAt pre + a.eqAt) σ'
        (g.attrAt pre + a.eqAt) σ' :=
      fun σ' => Expr.Traverse.rep_set_of_run σ' (Nat.le_refl _) fun x h₁ h₂ => absurd h₂ (by omega)
    have hequals : ∀ σ' : Array (Option Nat), Expr.Traverse (ofString g.text).chars
        (.set ⟨[(61, 61)]⟩) (g.attrAt pre + a.eqAt) σ' (g.attrAt pre + a.openAt) σ' := fun σ' => by
      rw [← hpos.2.1, ← Nat.add_assoc]
      exact .set heqAt (searchRanges_of_mem_singles ['='] rfl (by decide) (List.mem_singleton_self _))
    exact .cat (.capture (.cat (.set hc (by rw [searchRanges_nameStart]; exact hstart rfl)) (hrest _)))
      (.cat (hblanks _) (hequals _))

theorem name_char_of_lt_attrAt_nil {y : Nat} (h₁ : 0 < y) (h₂ : y < g.attrAt []) :
    ∃ ch, (ofString g.text).chars[y]? = some ch ∧ isNameChar ch = true := by
  have hnil := attrAt_nil (g := g)
  obtain ⟨z, rfl⟩ : ∃ z, y = z + 1 := ⟨y - 1, by omega⟩
  have hlt : z < g.name.toList.length := by
    rw [String.length_toList]
    omega
  refine ⟨g.name.toList[z], ?_, isNameChar_of_mem_isName g.name_isName (List.getElem_mem hlt)⟩
  rw [getElem?_chars_ofString, getElem?_name (by omega), List.getElem?_eq_getElem hlt]

theorem name_char_after_space (h : g.attributes = pre ++ post)
    (hsp : (ofString g.text).chars[g.attrAt pre]? = some ' ') :
    ∃ ch, (ofString g.text).chars[g.attrAt pre + 1]? = some ch ∧ isNameChar ch = true := by
  cases post with
  | nil =>
    rw [List.append_nil] at h
    rw [getElem?_chars_ofString,
      show g.attrAt pre = g.closerAt + 0 by rw [closerAt, h]; rfl, getElem?_closerAt_add] at hsp
    exact absurd (closer_char hsp) (by decide)
  | cons a post =>
    have hpos := a.positions
    have hlt : 1 < a.text.toList.length := by
      rw [String.length_toList]
      omega
    have hget := List.getElem?_eq_getElem hlt
    refine ⟨a.text.toList[1], by rw [getElem?_chars_attrAt_add h (by omega), hget], ?_⟩
    rcases TagAttribute.char_cases hget with ⟨h₁, -⟩ | ⟨-, -, hc, -⟩ | ⟨h₁, -⟩ | ⟨h₁, -⟩ | ⟨h₁, -⟩ |
      ⟨h₁, -⟩
    · omega
    · exact hc
    all_goals omega

/-- **No attribute starts in the tag's name**: from a name character the run of name characters
reaches the end of the name, where neither blanks and an `=`, nor an `=`, follow. -/
theorem not_traverse_markupAttribute_name {b k : Nat} (hb : b ≤ g.attrAt [])
    (σ ρ : Array (Option Nat)) :
    ¬ Expr.Traverse (ofString g.text).chars markupAttributeExpr b σ k ρ := by
  intro htr
  have hA : ∀ {ch}, (ofString g.text).chars[g.attrAt []]? = some ch → ch = ' ' ∨ ch = '>' ∨ ch = '/' :=
    char_attrAt (show g.attributes = [] ++ g.attributes from rfl)
  obtain ⟨j₁, j₂, h₁, h₂, -, ⟨c, hc, hstart⟩, hrun, hblank, heq, -⟩ := htr.markupAttribute_inv
  have hb₀ : b ≠ 0 := by
    rintro rfl
    rw [getElem?_chars_ofString, getElem?_zero, Option.some.injEq] at hc
    subst hc
    exact absurd hstart (by decide)
  have hbA : b ≠ g.attrAt [] := by
    rintro rfl
    rcases hA hc with rfl | rfl | rfl <;> exact absurd hstart (by decide)
  have hj₁ : j₁ ≤ g.attrAt [] := by
    by_contra hlt
    obtain ⟨ch, hch, hin⟩ := hrun (g.attrAt []) (by omega) (by omega)
    rcases hA hch with rfl | rfl | rfl <;> rw [not_markupName_of_mem (by decide)] at hin <;> cases hin
  rcases Nat.lt_or_ge j₁ (g.attrAt []) with hlt | hge
  · -- before the end of the name, a name character stands where the blanks or the `=` begin
    obtain ⟨ch, hch, hname⟩ := name_char_of_lt_attrAt_nil (by omega) hlt
    rcases Nat.eq_or_lt_of_le h₂ with rfl | hlt'
    · rw [heq, Option.some.injEq] at hch
      subst hch
      exact absurd hname (by decide)
    · obtain ⟨d, hd, hin⟩ := hblank j₁ le_rfl hlt'
      rw [hch, Option.some.injEq] at hd
      subst hd
      rw [not_space_of_isNameChar hname] at hin
      cases hin
  · obtain rfl : j₁ = g.attrAt [] := by omega
    -- at the end of the name: no `=`, so a blank, which is the space of an attribute
    have hj₂ : g.attrAt [] < j₂ := by
      by_contra hle
      obtain rfl : j₂ = g.attrAt [] := by omega
      rcases hA heq with h | h | h <;> exact absurd h (by decide)
    obtain ⟨d, hd, hsp⟩ := hblank _ le_rfl hj₂
    obtain rfl : d = ' ' := by
      rcases hA hd with rfl | rfl | rfl
      · rfl
      · rw [searchRanges_space_ascii (by decide)] at hsp
        exact absurd hsp (by decide)
      · rw [searchRanges_space_ascii (by decide)] at hsp
        exact absurd hsp (by decide)
    obtain ⟨ch, hch, hname⟩ := name_char_after_space (show g.attributes = [] ++ g.attributes from rfl) hd
    rcases Nat.eq_or_lt_of_le (show g.attrAt [] + 1 ≤ j₂ from hj₂) with heq' | hlt'
    · rw [heq', heq, Option.some.injEq] at hch
      subst hch
      exact absurd hname (by decide)
    · obtain ⟨d, hd', hin⟩ := hblank (g.attrAt [] + 1) (by omega) hlt'
      rw [hch, Option.some.injEq] at hd'
      subst hd'
      rw [not_space_of_isNameChar hname] at hin
      cases hin

/-- **An attribute's value holds no attribute.**  From the opening quote of the value of the
attribute after `pre` up to the start of the next attribute, a candidate of the attribute rule
starts between quotes and stops before the closing quote. -/
theorem skip_value (h : g.attributes = pre ++ a :: post) {b k : Nat}
    (h₁ : g.attrAt pre + a.openAt ≤ b) (h₂ : b < g.attrAt (pre ++ [a]) + 1)
    {σ ρ : Array (Option Nat)}
    (htr : Expr.Traverse (ofString g.text).chars markupAttributeExpr b σ k ρ) :
    (ofString g.text).betweenQuotes ((ofString g.text).byteAt b) = true ∧
      k ≤ g.attrAt (pre ++ [a]) + 1 := by
  have hpos := a.positions
  have hnext : g.attrAt (pre ++ [a]) = g.attrAt pre + a.text.length := attrAt_append_singleton
  obtain ⟨ch, hch, hstart⟩ := htr.leads markupAttributeExpr_leads
  rcases Nat.lt_or_ge b (g.attrAt pre + a.text.length) with hb | hb
  · -- within the attribute: the quotes start no name, and a candidate between them stops at the
    obtain ⟨k', rfl⟩ : ∃ k', b = g.attrAt pre + k' := ⟨b - g.attrAt pre, by omega⟩
    rw [getElem?_chars_attrAt_add h (by omega)] at hch
    rcases TagAttribute.char_cases hch with ⟨h₃, -⟩ | ⟨-, h₃, -⟩ | ⟨h₃, -⟩ | ⟨-, hq⟩ | ⟨h₃, h₄, -⟩ |
      ⟨-, hq⟩
    · omega
    · omega
    · omega
    · subst hq
      exact absurd hstart (by decide)
    · have hclose : (ofString g.text).chars[g.attrAt pre + a.closeAt]? = some '"' := by
        rw [getElem?_chars_attrAt_add h (by omega), TagAttribute.getElem?_closeAt]
      have hk := htr.le_of_within markupAttributeExpr_within
        (show g.attrAt pre + k' ≤ g.attrAt pre + a.closeAt by omega)
        fun ch hch hne => hne (by rw [hclose] at hch; exact (Option.some.inj hch).symm)
      refine ⟨?_, by omega⟩
      rw [betweenQuotes_attrAt_add h (by omega), decide_eq_true_eq]
      omega
    · subst hq
      exact absurd hstart (by decide)
  · -- the start of the next attribute, or the closer
    obtain rfl : b = g.attrAt (pre ++ [a]) := by omega
    rw [isNameStart_of_leads_attrAt (show g.attributes = (pre ++ [a]) ++ post by simp [h]) hch] at hstart
    cases hstart

/-- **The attribute rule finds the next attribute's name**: from a position before it from which
every candidate starts between quotes and ends by the name, the first match outside quotes is the
name and its `=`, with the name as the styled group. -/
theorem findNext_markupAttribute (h : g.attributes = pre ++ a :: post) {x : Nat}
    (hx : x ≤ g.attrAt pre + 1)
    (hskip : ∀ b, x ≤ b → b < g.attrAt pre + 1 → ∀ k σ ρ,
      Expr.Traverse (ofString g.text).chars markupAttributeExpr b σ k ρ →
        (ofString g.text).betweenQuotes ((ofString g.text).byteAt b) = true ∧ k ≤ g.attrAt pre + 1) :
    markupAttribute.findNext (ofString g.text) ((ofString g.text).byteAt x) =
      some ⟨((ofString g.text).byteAt (g.attrAt pre + 1),
          (ofString g.text).byteAt (g.attrAt pre + a.openAt)),
        some ((ofString g.text).byteAt (g.attrAt pre + 1),
          (ofString g.text).byteAt (g.attrAt pre + a.eqAt))⟩ := by
  have hpos := a.positions
  have hle := attrAt_add_length_le h
  have hsize := size_chars (g := g)
  exact findNext_eq_of_unique compiled_markupAttribute markupAttributeProgram_targets
    markupAttributeProgram_ranked (by decide) (by decide) hx (by omega) hskip
    (.capture ((traverse_markupAttribute_iff h _ _).2 ⟨rfl, rfl⟩))
    (fun _ _ htr => htr.capture_eq_of_unique fun _ _ hinner =>
      (traverse_markupAttribute_iff h _ _).1 hinner)
    (by rw [betweenQuotes_attrAt_add h (by omega), decide_eq_false_iff_not]; omega)
    (by simp [markupAttribute, show markupAttributeExpr.groupCount = 2 from rfl])
    (by simp [markupAttribute, show markupAttributeExpr.groupCount = 2 from rfl])

theorem byteAt_name_bounds (h : g.attributes = pre ++ a :: post) :
    (ofString g.text).byteAt (g.attrAt pre + 1) = (g.before pre).utf8ByteSize + 1 ∧
      (ofString g.text).byteAt (g.attrAt pre + a.eqAt) =
        (g.before pre).utf8ByteSize + 1 + a.name.utf8ByteSize := by
  have hstart := byteAt_attrAt_add h (P := " ") (Q := a.name ++ ("=\"" ++ (a.value ++ "\"")))
    (by simp [TagAttribute.text, String.append_assoc])
  have hstop := byteAt_attrAt_add h (P := " " ++ a.name) (Q := "=\"" ++ (a.value ++ "\""))
    (by simp [TagAttribute.text, String.append_assoc])
  rw [String.length_append, String.utf8ByteSize_append, show " ".length = 1 from rfl,
    show " ".utf8ByteSize = 1 from rfl, Nat.add_comm 1 a.name.length] at hstop
  rw [show " ".length = 1 from rfl, show " ".utf8ByteSize = 1 from rfl] at hstart
  exact ⟨hstart, by rw [TagAttribute.eqAt, hstop, Nat.add_assoc]⟩

/-- **The attribute rule styles the names of the attributes still to come.**  By induction on the
attributes after `pre`: the search finds the next name (`findNext_markupAttribute`) and resumes at
the opening quote of its value, which holds no candidate outside quotes (`skip_value`). -/
theorem attributeSpans_from (st : Style) :
    ∀ post pre, g.attributes = pre ++ post → ∀ x, x ≤ g.attrAt pre + 1 →
      (∀ b, x ≤ b → b < g.attrAt pre + 1 → ∀ k σ ρ,
        Expr.Traverse (ofString g.text).chars markupAttributeExpr b σ k ρ →
          (ofString g.text).betweenQuotes ((ofString g.text).byteAt b) = true ∧
            k ≤ g.attrAt pre + 1) →
      (markupAttribute.matchesFrom (ofString g.text) ((ofString g.text).byteAt x)).filterMap
          (Rule.styledSpan ⟨markupAttribute, st⟩) =
        post.mapIdx fun j a =>
          ⟨(g.before (pre ++ post.take j)).utf8ByteSize + 1,
            (g.before (pre ++ post.take j)).utf8ByteSize + 1 + a.name.utf8ByteSize, st⟩ := by
  intro post
  induction post with
  | nil =>
    intro pre h x hx hskip
    have hcl : g.closerAt = g.attrAt pre := by rw [closerAt, h, List.append_nil]
    have hlen := closer_length_pos (g := g)
    rw [matchesFrom_eq_nil_of_inside compiled_markupAttribute (by rw [size_chars]; omega)
      fun b hb k σ ρ htr => ?_]
    · rfl
    rcases Nat.lt_or_ge b (g.attrAt pre + 1) with hlt | hge
    · exact (hskip b hb hlt k σ ρ htr).1
    · -- in the closer no name starts
      obtain ⟨ch, hch, hstart⟩ := htr.leads markupAttributeExpr_leads
      rw [getElem?_chars_ofString, show b = g.closerAt + (b - g.closerAt) by omega,
        getElem?_closerAt_add] at hch
      rcases closer_char hch with rfl | rfl <;> exact absurd hstart (by decide)
  | cons a post ih =>
    intro pre h x hx hskip
    have hpos := a.positions
    have hle := attrAt_add_length_le h
    have hnext : g.attrAt (pre ++ [a]) = g.attrAt pre + a.text.length := attrAt_append_singleton
    have hsize : g.attrAt pre + a.openAt ≤ (ofString g.text).chars.size := by
      rw [size_chars]
      omega
    have hgrow : (ofString g.text).byteAt x < (ofString g.text).byteAt (g.attrAt pre + a.openAt) :=
      byteAt_lt_byteAt (by omega) hsize
    have hname : (ofString g.text).byteAt (g.attrAt pre + 1) <
        (ofString g.text).byteAt (g.attrAt pre + a.eqAt) :=
      byteAt_lt_byteAt (by omega) (by omega)
    obtain ⟨hstart, hstop⟩ := byteAt_name_bounds h
    have hbytes : 0 < a.name.utf8ByteSize := by
      rw [hstart, hstop] at hname
      omega
    -- the next name, then the attributes after it, from the opening quote of its value on
    rw [matchesFrom_of_findNext (findNext_markupAttribute h hx hskip)
        ⟨hgrow, by simpa using byteAt_le_byteLength hsize⟩,
      List.filterMap_cons, ih (pre ++ [a]) (by simp [h]) _ (by omega)
        fun b h₁ h₂ k σ ρ htr => skip_value h h₁ h₂ htr]
    simp [Rule.styledSpan, hbytes, hstart, hstop, List.take_succ_cons]

/-- **The attribute rule styles each attribute's name**, left to right. -/
theorem spans_markupAttribute (st : Style) :
    Rule.spans ⟨markupAttribute, st⟩ (ofString g.text) =
      g.attributes.mapIdx fun j a =>
        ⟨(g.before (g.attributes.take j)).utf8ByteSize + 1,
          (g.before (g.attributes.take j)).utf8ByteSize + 1 + a.name.utf8ByteSize, st⟩ := by
  have h := attributeSpans_from st g.attributes [] rfl 0 (Nat.zero_le _)
    fun b _ hb k σ ρ htr => absurd htr (not_traverse_markupAttribute_name (by omega) σ ρ)
  rw [byteAt_zero] at h
  simpa [Rule.spans, quoteAwareMatches] using h

/-! ## The value rule -/

theorem quotesFrom_attrAt (h : g.attributes = pre ++ a :: post) :
    quotesFrom (ofString g.text).chars (g.attrAt pre) =
      (g.attrAt pre + a.openAt) :: (g.attrAt pre + a.closeAt) ::
        quotesFrom (ofString g.text).chars (g.attrAt (pre ++ [a])) := by
  have hpos := a.positions
  have hle := attrAt_add_length_le h
  have hsize := size_chars (g := g)
  have hlen := closer_length_pos (g := g)
  have hchar : ∀ z, g.attrAt pre ≤ z → z < g.attrAt pre + a.text.length →
      (ofString g.text).chars[z]? = a.text.toList[z - g.attrAt pre]? := fun z h₁ h₂ => by
    rw [← getElem?_chars_attrAt_add h (by omega), Nat.add_sub_cancel' h₁]
  have hname : quotesFrom (ofString g.text).chars (g.attrAt pre) =
      quotesFrom (ofString g.text).chars (g.attrAt pre + a.openAt) :=
    quotesFrom_of_no_quote (Nat.le_add_right _ _) (by omega) fun z h₁ h₂ => by
      rw [hchar z h₁ (by omega)]
      exact TagAttribute.ne_quote_of_lt_openAt (by omega)
  have hvalue : quotesFrom (ofString g.text).chars (g.attrAt pre + a.openAt + 1) =
      quotesFrom (ofString g.text).chars (g.attrAt pre + a.closeAt) :=
    quotesFrom_of_no_quote (by omega) (by omega) fun z h₁ h₂ hq => by
      rw [hchar z (by omega) (by omega)] at hq
      rcases TagAttribute.char_cases hq with ⟨h₃, -⟩ | ⟨-, h₃, -⟩ | ⟨h₃, -⟩ | ⟨h₃, -⟩ | ⟨-, -, hne⟩ |
        ⟨h₃, -⟩
      · omega
      · omega
      · omega
      · omega
      · exact hne rfl
      · omega
  have hopen : quotesFrom (ofString g.text).chars (g.attrAt pre + a.openAt) =
      (g.attrAt pre + a.openAt) :: quotesFrom (ofString g.text).chars (g.attrAt pre + a.openAt + 1) := by
    rw [quotesFrom_succ (by omega), if_pos]
    rw [hchar _ (by omega) (by omega), Nat.add_sub_cancel_left, TagAttribute.getElem?_openAt]
  have hclose : quotesFrom (ofString g.text).chars (g.attrAt pre + a.closeAt) =
      (g.attrAt pre + a.closeAt) :: quotesFrom (ofString g.text).chars (g.attrAt (pre ++ [a])) := by
    rw [quotesFrom_succ (by omega), if_pos, attrAt_append_singleton, hpos.2.2.2, Nat.add_assoc]
    rw [hchar _ (by omega) (by omega), Nat.add_sub_cancel_left, TagAttribute.getElem?_closeAt]
  rw [hname, hopen, hvalue, hclose]

theorem quotesFrom_closerAt : quotesFrom (ofString g.text).chars g.closerAt = [] := by
  have hsize := size_chars (g := g)
  have hnone : quotesFrom (ofString g.text).chars g.closerAt =
      quotesFrom (ofString g.text).chars (g.closerAt + g.closer.length) :=
    quotesFrom_of_no_quote (Nat.le_add_right _ _) hsize.ge fun z h₁ h₂ hq => by
      rw [getElem?_chars_ofString, show z = g.closerAt + (z - g.closerAt) by omega,
        getElem?_closerAt_add] at hq
      rcases closer_char hq with h | h <;> exact absurd h (by decide)
  rw [hnone, quotesFrom_of_size_le hsize.le]

theorem byteAt_value_bounds (h : g.attributes = pre ++ a :: post) :
    (ofString g.text).byteAt (g.attrAt pre + a.openAt) =
        (g.before pre).utf8ByteSize + a.name.utf8ByteSize + 2 ∧
      (ofString g.text).byteAt (g.attrAt pre + a.closeAt + 1) =
        (g.before pre).utf8ByteSize + a.text.utf8ByteSize := by
  have hopen := byteAt_attrAt_add h (P := " " ++ a.name ++ "=") (Q := "\"" ++ (a.value ++ "\""))
    (by apply String.toList_injective; simp [TagAttribute.text])
  have hclose := byteAt_attrAt_add h (P := a.text) (Q := "") (by simp)
  rw [String.length_append, String.length_append, String.utf8ByteSize_append,
    String.utf8ByteSize_append, show " ".length = 1 from rfl, show "=".length = 1 from rfl,
    show " ".utf8ByteSize = 1 from rfl, show "=".utf8ByteSize = 1 from rfl] at hopen
  rw [a.positions.2.2.2, ← Nat.add_assoc] at hclose
  refine ⟨?_, hclose⟩
  rw [show a.openAt = 1 + a.name.length + 1 by simp only [TagAttribute.openAt]; omega, hopen]
  omega

/-- **The value rule styles the values still to come**, each with its quotes, by induction on the
attributes after `pre`. -/
theorem valueSpans_from (st : Style) :
    ∀ post pre, g.attributes = pre ++ post →
      (pairUp (quotesFrom (ofString g.text).chars (g.attrAt pre))).map
          (fun q => (⟨(ofString g.text).byteAt q.1, (ofString g.text).byteAt (q.2 + 1), st⟩ : Span)) =
        post.mapIdx fun j a =>
          ⟨(g.before (pre ++ post.take j)).utf8ByteSize + a.name.utf8ByteSize + 2,
            (g.before (pre ++ post.take j)).utf8ByteSize + a.text.utf8ByteSize, st⟩ := by
  intro post
  induction post with
  | nil =>
    intro pre h
    rw [List.append_nil] at h
    rw [show g.attrAt pre = g.closerAt by rw [closerAt, h], quotesFrom_closerAt]
    rfl
  | cons a post ih =>
    intro pre h
    obtain ⟨hopen, hclose⟩ := byteAt_value_bounds h
    rw [quotesFrom_attrAt h, pairUp, List.map_cons, ih (pre ++ [a]) (by simp [h])]
    simp [hopen, hclose, List.take_succ_cons]

/-- **The value rule styles each attribute's value**, with its quotes, left to right. -/
theorem spans_values (st : Style) :
    Rule.spans ⟨Pattern.quoted, st⟩ (ofString g.text) =
      g.attributes.mapIdx fun j a =>
        ⟨(g.before (g.attributes.take j)).utf8ByteSize + a.name.utf8ByteSize + 2,
          (g.before (g.attributes.take j)).utf8ByteSize + a.text.utf8ByteSize, st⟩ := by
  have hle := attrAt_nil_le_closerAt (g := g)
  have hsize := size_chars (g := g)
  have hname : quotesFrom (ofString g.text).chars 0 = quotesFrom (ofString g.text).chars (g.attrAt []) :=
    quotesFrom_of_no_quote (Nat.zero_le _) (by omega) fun z _ hz hq => by
      rcases Nat.eq_zero_or_pos z with rfl | hz₀
      · rw [getElem?_chars_ofString, getElem?_zero] at hq
        exact absurd (Option.some.inj hq) (by decide)
      · obtain ⟨ch, hch, hc⟩ := name_char_of_lt_attrAt_nil hz₀ hz
        rw [hq, Option.some.injEq] at hch
        subst hch
        exact absurd hc (by decide)
  rw [spans_quoted, hname, valueSpans_from st g.attributes [] rfl]
  simp

/-! ## The operator rule -/

theorem drop_closerAt : (ofString g.text).chars.toList.drop g.closerAt = g.closer.toList := by
  rw [toList_chars_ofString,
    toList_text_of_eq (show g.attributes = g.attributes ++ [] from (List.append_nil _).symm),
    closerAt, attrAt, ← String.length_toList, List.drop_left]
  simp

theorem traverse_markupOperator_zero {j : Nat} {σ τ : Array (Option Nat)}
    (htr : Expr.Traverse (ofString g.text).chars markupOperatorExpr 0 σ j τ) : j = 1 ∧ τ = σ := by
  obtain ⟨rfl, w, hw, rfl, hpre⟩ := Expr.traverse_markupOperator_iff.1 htr
  obtain ⟨c, cs, hs, hc, -⟩ := isName_iff.1 g.name_isName
  rw [List.drop_zero, toList_chars_ofString,
    toList_text_of_eq (show g.attributes = [] ++ g.attributes from rfl), toList_before, hs] at hpre
  simp only [markupOperators, List.mem_cons, List.not_mem_nil, or_false] at hw
  rcases hw with rfl | rfl | rfl | rfl | rfl | rfl
  · simp at hpre
    subst hpre
    exact absurd hc (by decide)
  · simp at hpre
  · simp at hpre
    subst hpre
    exact absurd hc (by decide)
  · simp at hpre
  · exact ⟨rfl, rfl⟩
  · simp at hpre

theorem traverse_markupOperator_closerAt {j : Nat} {σ τ : Array (Option Nat)}
    (htr : Expr.Traverse (ofString g.text).chars markupOperatorExpr g.closerAt σ j τ) :
    j = g.closerAt + g.closer.length ∧ τ = σ := by
  obtain ⟨rfl, w, hw, rfl, hpre⟩ := Expr.traverse_markupOperator_iff.1 htr
  rw [drop_closerAt] at hpre
  refine ⟨?_, rfl⟩
  simp only [markupOperators, List.mem_cons, List.not_mem_nil, or_false] at hw
  rcases g.closer_cases with hc | hc <;> rw [hc] at hpre ⊢ <;>
    rcases hw with rfl | rfl | rfl | rfl | rfl | rfl <;> simp at hpre ⊢

/-- **Between the `<` and the closer no operator stands outside quotes**: a candidate there starts
between quotes and stops before the closing quote. -/
theorem skip_markupOperator {b k : Nat} (h₁ : 1 ≤ b) (h₂ : b < g.closerAt)
    {σ ρ : Array (Option Nat)}
    (htr : Expr.Traverse (ofString g.text).chars markupOperatorExpr b σ k ρ) :
    (ofString g.text).betweenQuotes ((ofString g.text).byteAt b) = true ∧ k ≤ g.closerAt := by
  have hsize := size_chars (g := g)
  have hin : (ofString g.text).betweenQuotes ((ofString g.text).byteAt b) = true := by
    by_contra hout
    obtain ⟨ch, hch, hmem⟩ := htr.leads markupOperatorExpr_leads
    simp only [List.mem_cons, List.not_mem_nil, or_false] at hmem
    rcases outside_cases hch (by simpa using hout) with ⟨h₃, -⟩ | ⟨-, -, hc, -⟩ | ⟨-, -, hc⟩ | ⟨h₃, -⟩
    · omega
    · rcases hmem with rfl | rfl | rfl | rfl <;> exact absurd hc (by decide)
    · rcases hc with rfl | rfl | rfl <;> simp at hmem
    · omega
  obtain ⟨q, hbq, hq, hquote⟩ := exists_quote_of_inside (by omega) hin
  have hk := htr.le_of_within markupOperatorExpr_within hbq
    fun ch hch hne => hne (by rw [hquote] at hch; exact (Option.some.inj hch).symm)
  exact ⟨hin, by omega⟩

/-- **The operator rule styles the opening `<` and the closer.** -/
theorem spans_markupOperator (st : Style) :
    Rule.spans ⟨markupOperator, st⟩ (ofString g.text) =
      [⟨0, 1, st⟩, ⟨g.text.utf8ByteSize - g.closer.utf8ByteSize, g.text.utf8ByteSize, st⟩] := by
  have hsize := size_chars (g := g)
  have hlen := closer_length_pos (g := g)
  have hle := attrAt_nil_le_closerAt (g := g)
  have hnil := attrAt_nil (g := g)
  have hgroups : markupOperatorExpr.groupCount = 1 := rfl
  have hfirst : markupOperator.findNext (ofString g.text) ((ofString g.text).byteAt 0) =
      some ⟨((ofString g.text).byteAt 0, (ofString g.text).byteAt 1),
        some ((ofString g.text).byteAt 0, (ofString g.text).byteAt 1)⟩ :=
    findNext_eq_of_unique compiled_markupOperator markupOperatorProgram_targets
      markupOperatorProgram_ranked (by decide) (by decide) le_rfl (Nat.zero_le _)
      (fun b _ hb => absurd hb (Nat.not_lt_zero _))
      (.capture (Expr.traverse_markupOperator_iff.2
        ⟨rfl, "<", by simp [markupOperators], rfl, by simp [text]⟩))
      (fun _ _ htr => htr.capture_eq_of_unique fun _ _ hinner => traverse_markupOperator_zero hinner)
      (betweenQuotes_of_le_attrAt_nil (Nat.zero_le _))
      (by simp [markupOperator, hgroups]) (by simp [markupOperator, hgroups])
  -- then the closer, with only candidates between quotes before it
  have hsecond : markupOperator.findNext (ofString g.text) ((ofString g.text).byteAt 1) =
      some ⟨((ofString g.text).byteAt g.closerAt,
          (ofString g.text).byteAt (g.closerAt + g.closer.length)),
        some ((ofString g.text).byteAt g.closerAt,
          (ofString g.text).byteAt (g.closerAt + g.closer.length))⟩ :=
    findNext_eq_of_unique compiled_markupOperator markupOperatorProgram_targets
      markupOperatorProgram_ranked (by decide) (by decide) (by omega) (by omega)
      (fun b h₁ h₂ k σ ρ htr => skip_markupOperator h₁ h₂ htr)
      (.capture (Expr.traverse_markupOperator_iff.2
        ⟨rfl, g.closer, by rcases g.closer_cases with hc | hc <;> simp [markupOperators, hc], rfl,
          by rw [drop_closerAt]⟩))
      (fun _ _ htr => htr.capture_eq_of_unique fun _ _ hinner =>
        traverse_markupOperator_closerAt hinner)
      (by simpa using betweenQuotes_closerAt_add (g := g) (Nat.zero_le _))
      (by simp [markupOperator, hgroups]) (by simp [markupOperator, hgroups])
  have hend : markupOperator.matchesFrom (ofString g.text)
      ((ofString g.text).byteAt (g.closerAt + g.closer.length)) = [] :=
    matchesFrom_eq_nil_of_inside compiled_markupOperator hsize.ge fun b hb k σ ρ htr => by
      obtain ⟨ch, hch, -⟩ := htr.leads markupOperatorExpr_leads
      rw [Array.getElem?_eq_none (by omega)] at hch
      cases hch
  have hcl : (ofString g.text).byteAt g.closerAt = (g.before g.attributes).utf8ByteSize :=
    byteAt_attrAt (show g.attributes = g.attributes ++ [] from (List.append_nil _).symm)
  have htext : g.text.utf8ByteSize = (g.before g.attributes).utf8ByteSize + g.closer.utf8ByteSize := by
    rw [text_eq_of_eq (show g.attributes = g.attributes ++ [] from (List.append_nil _).symm)]
    simp
  have hgrow : (ofString g.text).byteAt 1 < (ofString g.text).byteAt (g.closerAt + g.closer.length) :=
    byteAt_lt_byteAt (by omega) hsize.ge
  have hcloser : (ofString g.text).byteAt g.closerAt <
      (ofString g.text).byteAt (g.closerAt + g.closer.length) :=
    byteAt_lt_byteAt (by omega) hsize.ge
  have hone : (ofString g.text).byteAt 1 ≤ (ofString g.text).byteLength := by
    simpa using byteAt_le_byteLength (show 1 ≤ (ofString g.text).chars.size by omega)
  rw [byteAt_zero] at hfirst
  rw [Rule.spans, quoteAwareMatches,
    matchesFrom_of_findNext hfirst ⟨by rw [byteAt_one]; exact Nat.one_pos, hone⟩,
    matchesFrom_of_findNext hsecond ⟨hgrow, by simpa using byteAt_le_byteLength hsize.ge⟩,
    hend]
  rw [hcl, byteAt_end] at hcloser
  have hbytes : 0 < g.closer.utf8ByteSize := by omega
  simp [Rule.styledSpan, byteAt_one, hcl, byteAt_end, hbytes, htext]

/-! ## Rules and delimiters that find nothing -/

theorem eq_zero_of_lt_outside {b : Nat} (hch : (ofString g.text).chars[b]? = some '<')
    (hout : (ofString g.text).betweenQuotes ((ofString g.text).byteAt b) = false) : b = 0 := by
  rcases outside_cases hch hout with ⟨h, -⟩ | ⟨-, -, hc, -⟩ | ⟨-, -, hc⟩ | ⟨-, hc⟩
  · exact h
  · exact absurd hc (by decide)
  · rcases hc with h | h | h <;> exact absurd h (by decide)
  · rcases hc with h | h <;> exact absurd h (by decide)

theorem betweenQuotes_of_lt_bang {b : Nat} (hlt : (ofString g.text).chars[b]? = some '<')
    (hbang : (ofString g.text).chars[b + 1]? = some '!') :
    (ofString g.text).betweenQuotes ((ofString g.text).byteAt b) = true := by
  by_contra hout
  obtain rfl := eq_zero_of_lt_outside hlt (by simpa using hout)
  obtain ⟨c, hc, hstart⟩ := getElem?_one (g := g)
  rw [Nat.zero_add, hc, Option.some.injEq] at hbang
  subst hbang
  exact absurd hstart (by decide)

theorem spans_markupComment (st : Style) : Rule.spans ⟨markupComment, st⟩ (ofString g.text) = [] := by
  have h : markupComment.matchesFrom (ofString g.text) ((ofString g.text).byteAt 0) = [] :=
    matchesFrom_eq_nil_of_inside compiled_markupComment (Nat.zero_le _) fun b _ k σ ρ htr => by
      obtain ⟨hlt, hbang⟩ := htr.markupComment_bang
      exact betweenQuotes_of_lt_bang hlt hbang
  rw [byteAt_zero] at h
  simp [Rule.spans, quoteAwareMatches, h]

theorem findNext_commentOpen : commentOpen.findNext (ofString g.text) 0 = none := by
  have h : commentOpen.findNext (ofString g.text) ((ofString g.text).byteAt 0) = none :=
    findNext_eq_none_of_inside compiled_commentOpen (Nat.zero_le _) fun b _ k σ ρ htr => by
      obtain ⟨-, -, hpre⟩ := (Expr.traverse_literal_iff _).1 htr
      have hlt := getElem?_of_prefix hpre (x := 0) (by simp)
      have hbang := getElem?_of_prefix hpre (x := 1) (by simp)
      simp only [Array.getElem?_toList] at hlt hbang
      exact betweenQuotes_of_lt_bang (by simpa using hlt) (by simpa using hbang)
  rwa [byteAt_zero] at h

theorem spans_number (st : Style) : Rule.spans ⟨number, st⟩ (ofString g.text) = [] := by
  have h : number.matchesFrom (ofString g.text) ((ofString g.text).byteAt 0) = [] :=
    matchesFrom_number_eq_nil (Nat.zero_le _)
    (fun b _ hout ch hch => by
      rcases outside_cases hch hout with ⟨-, rfl⟩ | ⟨-, -, hc, -⟩ | ⟨-, -, hc⟩ | ⟨-, hc⟩
      · decide
      · have := isNameChar_iff.1 hc
        omega
      · rcases hc with rfl | rfl | rfl <;> decide
      · rcases hc with rfl | rfl <;> decide)
    (fun b _ hout ch hch hdigit => by
      rcases outside_cases hch hout with ⟨-, rfl⟩ | ⟨hb, -, hc, hstart | ⟨c', hc', hname⟩⟩ |
        ⟨-, -, hc⟩ | ⟨-, hc⟩
      · exact absurd hdigit (by rw [searchRanges_digit_ascii (by decide)]; decide)
      · -- a digit starts no name
        have hd := isNameChar_iff.1 hc
        have hs := isNameStart_iff.1 hstart
        rw [searchRanges_digit_ascii (by omega)] at hdigit
        simp only [decide_eq_true_eq] at hdigit
        omega
      · exact ⟨isWordChar_of_isNameChar hc, hb, c', hc', isWordChar_of_isNameChar hname⟩
      · rcases hc with rfl | rfl | rfl <;>
          exact absurd hdigit (by rw [searchRanges_digit_ascii (by decide)]; decide)
      · rcases hc with rfl | rfl <;>
          exact absurd hdigit (by rw [searchRanges_digit_ascii (by decide)]; decide))
  rw [byteAt_zero] at h
  simp [Rule.spans, quoteAwareMatches, h]

theorem scan_code :
    BlockComment.scan ⟨commentOpen, commentClose⟩ (ofString g.text) .code = ([], .code) := by
  rw [BlockComment.scan, BlockComment.scanFrom]
  simp only [findNext_commentOpen]

theorem utf8ByteSize_before_nil : (g.before []).utf8ByteSize = 1 + g.name.utf8ByteSize := by
  simp [before, String.utf8ByteSize_append]
  rfl

end Tag

namespace Grammar

open Tag Pattern

/-- **The line of a tag is highlighted part by part.**  The name, each attribute's name and each
quoted value are styled, with the `<` and the closer, and nothing inside the values is, whatever
they hold. -/
theorem markupGrammar_tag_spans (g : Tag) :
    markupGrammar.tokenizeLine g.text .code =
      ⟨⟨1, 1 + g.name.utf8ByteSize, .element⟩ ::
        ((g.attributes.mapIdx fun i a =>
            ⟨(g.before (g.attributes.take i)).utf8ByteSize + 1,
              (g.before (g.attributes.take i)).utf8ByteSize + 1 + a.name.utf8ByteSize,
              .attributeName⟩) ++
          (g.attributes.mapIdx fun i a =>
            ⟨(g.before (g.attributes.take i)).utf8ByteSize + a.name.utf8ByteSize + 2,
              (g.before (g.attributes.take i)).utf8ByteSize + a.text.utf8ByteSize, .value⟩) ++
          [⟨0, 1, .operator⟩,
            ⟨g.text.utf8ByteSize - g.closer.utf8ByteSize, g.text.utf8ByteSize, .operator⟩]),
        .code⟩ := by
  rw [tokenizeLine_of_blockComment markupGrammar_blockComment, scan_code, ruleSpans,
    markupGrammar_rules]
  simp only [List.flatMap_cons, List.flatMap_nil, spans_markupElement, spans_markupAttribute,
    spans_values, spans_markupOperator, spans_number, spans_markupComment, utf8ByteSize_before_nil,
    List.append_nil, List.nil_append, List.cons_append, List.append_assoc]

/-- The tag `<a href="x<y" id="1"/>`, whose values hold a `<` and a digit. -/
theorem markupGrammar_tag_spans_of_anchor :
    markupGrammar.tokenizeLine "<a href=\"x<y\" id=\"1\"/>" .code =
      ⟨[⟨1, 2, .element⟩, ⟨3, 7, .attributeName⟩, ⟨14, 16, .attributeName⟩, ⟨8, 13, .value⟩,
        ⟨17, 20, .value⟩, ⟨0, 1, .operator⟩, ⟨20, 22, .operator⟩], .code⟩ := by
  let href : TagAttribute := ⟨"href", "x<y", by decide, by decide⟩
  let id : TagAttribute := ⟨"id", "1", by decide, by decide⟩
  let tag : Tag := ⟨"a", [href, id], "/>", by decide, .inr rfl⟩
  have htext : tag.text = "<a href=\"x<y\" id=\"1\"/>" := by decide
  rw [← htext, markupGrammar_tag_spans tag]
  decide

end Grammar

end Highlight
