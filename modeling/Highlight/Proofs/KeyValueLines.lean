import Mathlib
import Highlight.Proofs.ConfigRules

/-!
# Key-value lines of configuration files

A key-value line is `key before = after "value"`: a name, blanks, `=`, blanks and a value in
quotes (`KeyValue`).  Outside its quotes such a line holds name characters, blanks, `=` and the
opening quote only (`KeyValue.plain_of_lt_openAt`), and every position from the opening quote to
the closing one lies between quotes (`KeyValue.betweenQuotes_inside`).
-/

namespace Highlight

/-- A key-value line of a configuration file: a name, blanks, `=`, blanks, and a value in quotes
with no quote inside. -/
structure KeyValue where
  key : String
  before : String
  after : String
  value : String
  key_isName : isName key = true
  before_blank : ∀ c ∈ before.toList, isBlank c = true
  after_blank : ∀ c ∈ after.toList, isBlank c = true
  value_noQuote : '"' ∉ value.toList

namespace KeyValue

variable (l : KeyValue)

/-- The text of the line. -/
def text : String := l.key ++ l.before ++ "=" ++ l.after ++ "\"" ++ l.value ++ "\""

/-- The index of the `=`. -/
def eqAt : Nat := l.key.length + l.before.length

/-- The index of the opening quote. -/
def openAt : Nat := l.eqAt + 1 + l.after.length

/-- The index of the closing quote. -/
def closeAt : Nat := l.openAt + 1 + l.value.length

theorem toList_text : l.text.toList =
    l.key.toList ++ (l.before.toList ++ ('=' :: (l.after.toList ++ ('"' :: (l.value.toList ++ ['"']))))) := by
  simp [text]

variable {l}

theorem positions : l.key.length ≤ l.eqAt ∧ l.eqAt < l.openAt ∧ l.openAt < l.closeAt := by
  simp only [closeAt, openAt, eqAt]
  omega

theorem getElem?_eqAt : l.text.toList[l.eqAt]? = some '=' := by
  rw [show l.text.toList = (l.key.toList ++ l.before.toList) ++
      '=' :: (l.after.toList ++ '"' :: (l.value.toList ++ ['"'])) by simp [toList_text],
    List.getElem?_append_right (by simp [eqAt, String.length_toList])]
  simp [eqAt, String.length_toList]

theorem getElem?_openAt : l.text.toList[l.openAt]? = some '"' := by
  rw [show l.text.toList = (l.key.toList ++ l.before.toList ++ '=' :: l.after.toList) ++
      '"' :: (l.value.toList ++ ['"']) by simp [toList_text],
    List.getElem?_append_right (by simp [openAt, eqAt, String.length_toList]; omega),
    show l.openAt - (l.key.toList ++ l.before.toList ++ '=' :: l.after.toList).length = 0 by
      simp [openAt, eqAt, String.length_toList]; omega]
  rfl

theorem getElem?_closeAt : l.text.toList[l.closeAt]? = some '"' := by
  rw [show l.text.toList = (l.key.toList ++ l.before.toList ++ '=' :: l.after.toList ++
      '"' :: l.value.toList) ++ ['"'] by simp [toList_text],
    List.getElem?_append_right (by simp [closeAt, openAt, eqAt, String.length_toList]; omega),
    show l.closeAt - (l.key.toList ++ l.before.toList ++ '=' :: l.after.toList ++
      '"' :: l.value.toList).length = 0 by simp [closeAt, openAt, eqAt, String.length_toList]; omega]
  rfl

theorem length_text : l.text.toList.length = l.closeAt + 1 := by
  simp only [toList_text, List.length_append, List.length_cons, List.length_nil, String.length_toList,
    closeAt, openAt, eqAt]
  omega

/-- **What each position of the line holds**: the key's name characters, the first one starting a
name; blanks; the `=`; blanks; the opening quote; the value's characters, none a quote; the
closing quote. -/
theorem char_cases {y : Nat} {ch : Char} (h : l.text.toList[y]? = some ch) :
    (y < l.key.length ∧ isNameChar ch = true ∧ (y = 0 → isNameStart ch = true)) ∨
    (l.key.length ≤ y ∧ y < l.eqAt ∧ isBlank ch = true) ∨
    (y = l.eqAt ∧ ch = '=') ∨
    (l.eqAt < y ∧ y < l.openAt ∧ isBlank ch = true) ∨
    (y = l.openAt ∧ ch = '"') ∨
    (l.openAt < y ∧ y < l.closeAt ∧ ch ≠ '"') ∨
    (y = l.closeAt ∧ ch = '"') := by
  simp only [toList_text, List.getElem?_append, List.getElem?_cons, String.length_toList] at h
  split_ifs at h with h₁ h₂ h₃ h₄ h₅ h₆ h₇
  · -- the key
    refine .inl ⟨h₁, isNameChar_of_mem_isName l.key_isName (List.mem_of_getElem? h), fun h0 => ?_⟩
    obtain ⟨c, cs, hs, hc, -⟩ := isName_iff.1 l.key_isName
    rw [h0, hs] at h
    simpa [← Option.some.inj h] using hc
  · exact .inr (.inl ⟨by omega, by simp only [eqAt]; omega, l.before_blank _ (List.mem_of_getElem? h)⟩)
  · exact .inr (.inr (.inl ⟨by simp only [eqAt]; omega, (Option.some.inj h).symm⟩))
  · exact .inr (.inr (.inr (.inl ⟨by simp only [eqAt]; omega, by simp only [openAt, eqAt]; omega,
      l.after_blank _ (List.mem_of_getElem? h)⟩)))
  · exact .inr (.inr (.inr (.inr (.inl ⟨by simp only [openAt, eqAt]; omega, (Option.some.inj h).symm⟩))))
  · refine .inr (.inr (.inr (.inr (.inr (.inl ⟨by simp only [openAt, eqAt]; omega,
      by simp only [closeAt, openAt, eqAt]; omega, fun hq => ?_⟩)))))
    exact l.value_noQuote (hq ▸ List.mem_of_getElem? h)
  · exact .inr (.inr (.inr (.inr (.inr (.inr ⟨by simp only [closeAt, openAt, eqAt]; omega,
      (Option.some.inj h).symm⟩)))))
  · simp at h

theorem ne_quote_of_lt_openAt {y : Nat} (hy : y < l.openAt) : l.text.toList[y]? ≠ some '"' := by
  intro h
  rcases char_cases h with ⟨-, hc, -⟩ | ⟨-, -, hc⟩ | ⟨-, hc⟩ | ⟨-, -, hc⟩ | ⟨rfl, -⟩ | ⟨h₁, -⟩ | ⟨rfl, -⟩
  · exact absurd hc (by decide)
  · exact absurd hc (by decide)
  · exact absurd hc (by decide)
  · exact absurd hc (by decide)
  · exact absurd hy (Nat.lt_irrefl _)
  · omega
  · simp only [closeAt] at hy
    omega

theorem count_take_quote {y : Nat} (hy : y ≤ l.closeAt) :
    (l.text.toList.take y).count '"' = if y ≤ l.openAt then 0 else 1 := by
  have hopen : (l.text.toList.take l.openAt).count '"' = 0 := by
    rw [count_take_of_no_quote (Nat.zero_le _) fun y _ h₂ => ne_quote_of_lt_openAt h₂]
    rfl
  split_ifs with h
  · rw [count_take_of_no_quote (Nat.zero_le _) fun z _ h₂ => ne_quote_of_lt_openAt (by omega)]
    rfl
  · -- after the opening quote, no other one comes before the closing quote
    have hvalue : ∀ z, l.openAt + 1 ≤ z → z < y → l.text.toList[z]? ≠ some '"' := by
      intro z h₁ h₂ hz
      have := l.positions
      rcases char_cases hz with ⟨h₃, -⟩ | ⟨-, h₃, -⟩ | ⟨rfl, -⟩ | ⟨-, h₃, -⟩ | ⟨rfl, -⟩ |
        ⟨-, -, hne⟩ | ⟨rfl, -⟩
      · omega
      · omega
      · omega
      · omega
      · omega
      · exact hne rfl
      · omega
    rw [count_take_of_no_quote (show l.openAt + 1 ≤ y by omega) hvalue, count_take_succ, hopen,
      if_pos getElem?_openAt]

open Subject

theorem betweenQuotes_text {y : Nat} (hy : y ≤ l.closeAt) :
    (ofString l.text).betweenQuotes ((ofString l.text).byteAt y) = decide (l.openAt < y) := by
  rw [betweenQuotes_byteAt_count (by simp [length_text]; omega), count_take_quote hy]
  by_cases h : y ≤ l.openAt
  · simp [h]
  · simp [h, Nat.lt_of_not_le h]

/-- **Outside quotes** the line holds the key, blanks, the `=` and the opening quote. -/
theorem outside_cases {y : Nat} {ch : Char} (h : (ofString l.text).chars[y]? = some ch)
    (hout : (ofString l.text).betweenQuotes ((ofString l.text).byteAt y) = false) :
    (y < l.key.length ∧ isNameChar ch = true ∧ (y = 0 → isNameStart ch = true)) ∨
    (l.key.length ≤ y ∧ y < l.eqAt ∧ isBlank ch = true) ∨
    (y = l.eqAt ∧ ch = '=') ∨
    (l.eqAt < y ∧ y < l.openAt ∧ isBlank ch = true) ∨
    (y = l.openAt ∧ ch = '"') := by
  rw [getElem?_chars_ofString] at h
  have hy : y ≤ l.closeAt := by
    have := (List.getElem?_eq_some_iff.1 h).1
    rw [length_text] at this
    omega
  have hle : y ≤ l.openAt := by simpa [betweenQuotes_text hy] using hout
  have := l.positions
  rcases char_cases h with h' | h' | h' | h' | h' | ⟨h₁, -⟩ | ⟨rfl, -⟩
  · exact .inl h'
  · exact .inr (.inl h')
  · exact .inr (.inr (.inl h'))
  · exact .inr (.inr (.inr (.inl h')))
  · exact .inr (.inr (.inr (.inr h')))
  · omega
  · omega

theorem byteAt_key : (ofString l.text).byteAt l.key.length = l.key.utf8ByteSize := by
  rw [show l.text = l.key ++ (l.before ++ "=" ++ l.after ++ "\"" ++ l.value ++ "\"") by
    simp only [text, String.append_assoc], byteAt_prefix]

theorem byteAt_eqAt : (ofString l.text).byteAt l.eqAt = (l.key ++ l.before).utf8ByteSize := by
  rw [show l.text = (l.key ++ l.before) ++ ("=" ++ l.after ++ "\"" ++ l.value ++ "\"") by
    simp only [text, String.append_assoc], ← byteAt_prefix (l.key ++ l.before), eqAt,
    String.length_append]

theorem byteAt_eqAt_succ :
    (ofString l.text).byteAt (l.eqAt + 1) = (l.key ++ l.before).utf8ByteSize + 1 := by
  rw [show l.text = (l.key ++ l.before ++ "=") ++ (l.after ++ "\"" ++ l.value ++ "\"") by
    simp only [text, String.append_assoc], show l.eqAt + 1 = (l.key ++ l.before ++ "=").length by
    simp [eqAt, String.length_append]; rfl, byteAt_prefix, String.utf8ByteSize_append]
  rfl

theorem byteAt_openAt :
    (ofString l.text).byteAt l.openAt = (l.key ++ l.before ++ "=" ++ l.after).utf8ByteSize := by
  rw [show l.text = (l.key ++ l.before ++ "=" ++ l.after) ++ ("\"" ++ l.value ++ "\"") by
    simp only [text, String.append_assoc], show l.openAt = (l.key ++ l.before ++ "=" ++ l.after).length by
    simp [openAt, eqAt, String.length_append]; rfl, byteAt_prefix]

theorem byteAt_end : (ofString l.text).byteAt (l.closeAt + 1) = l.text.utf8ByteSize := by
  rw [← length_text, byteAt_ofString le_rfl, byteOffset_length]

/-! ## What the rules may start with -/

theorem not_mem_of_plain {ds : List Char}
    (hds : ds.all (fun d => !isNameChar d && !isBlank d && d != '=') = true) {ch : Char}
    (h : isNameChar ch = true ∨ isBlank ch = true ∨ ch = '=') : ch ∉ ds := by
  intro hmem
  have hd := List.all_eq_true.1 hds ch hmem
  simp only [Bool.and_eq_true, Bool.not_eq_true', bne_iff_ne, ne_eq] at hd
  rcases h with h | h | h
  · simp [h] at hd
  · simp [h] at hd
  · exact hd.2 h

theorem barrier_of_outside {b : Nat}
    (hout : (ofString l.text).betweenQuotes ((ofString l.text).byteAt b) = false) :
    ∃ q, b ≤ q ∧ (∀ ch, (ofString l.text).chars[q]? = some ch → ch = '"') ∧
      ∀ y, b ≤ y → y < q → ∀ ch, (ofString l.text).chars[y]? = some ch →
        isNameChar ch = true ∨ isBlank ch = true ∨ ch = '=' := by
  have := l.positions
  by_cases hb : b ≤ l.closeAt
  · -- up to the opening quote
    have hle : b ≤ l.openAt := by simpa [betweenQuotes_text hb] using hout
    refine ⟨l.openAt, hle, fun ch h => ?_, fun y _ hy ch h => ?_⟩
    · rw [getElem?_chars_ofString, getElem?_openAt] at h
      exact (Option.some.inj h).symm
    · rw [getElem?_chars_ofString] at h
      rcases char_cases h with ⟨-, hc, -⟩ | ⟨-, -, hc⟩ | ⟨-, hc⟩ | ⟨-, -, hc⟩ | ⟨rfl, -⟩ | ⟨h₁, -⟩ |
        ⟨rfl, -⟩
      · exact .inl hc
      · exact .inr (.inl hc)
      · exact .inr (.inr hc)
      · exact .inr (.inl hc)
      all_goals omega
  · -- past the end of the line
    refine ⟨b, le_rfl, fun ch h => ?_, fun y h₁ h₂ => absurd h₂ (by omega)⟩
    rw [getElem?_chars_ofString, List.getElem?_eq_none (by rw [length_text]; omega)] at h
    cases h

theorem not_mem_of_outside {ds : List Char}
    (hds : ds.all (fun d => !isNameChar d && !isBlank d && d != '=' && d != '"') = true) {y : Nat}
    {ch : Char} (h : (ofString l.text).chars[y]? = some ch)
    (hout : (ofString l.text).betweenQuotes ((ofString l.text).byteAt y) = false) : ch ∉ ds := by
  have hplain : ds.all (fun d => !isNameChar d && !isBlank d && d != '=') = true :=
    List.all_eq_true.2 fun d hd => by
      have := List.all_eq_true.1 hds d hd
      simp only [Bool.and_eq_true] at this ⊢
      exact this.1
  rcases outside_cases h hout with ⟨-, hc, -⟩ | ⟨-, -, hc⟩ | ⟨-, hc⟩ | ⟨-, -, hc⟩ | ⟨-, rfl⟩
  · exact not_mem_of_plain hplain (.inl hc)
  · exact not_mem_of_plain hplain (.inr (.inl hc))
  · exact not_mem_of_plain hplain (.inr (.inr hc))
  · exact not_mem_of_plain hplain (.inr (.inl hc))
  · intro hmem
    have := List.all_eq_true.1 hds _ hmem
    simp at this

/-! ## Rules that find nothing -/

open Regex Pattern

theorem spans_eq_nil_of_leads {p : Pattern} (hp : p.Compiled) {ds : List Char}
    (hl : p.regex.Leads (· ∈ ds))
    (hds : ds.all (fun d => !isNameChar d && !isBlank d && d != '=' && d != '"') = true)
    (st : Style) : Rule.spans ⟨p, st⟩ (ofString l.text) = [] := by
  have h : p.matchesFrom (ofString l.text) ((ofString l.text).byteAt 0) = [] :=
    matchesFrom_eq_nil_of_leads hp hl (Nat.zero_le _) fun b _ hout ch hch =>
    not_mem_of_outside hds hch hout
  rw [byteAt_zero] at h
  simp [Rule.spans, quoteAwareMatches, h]

theorem spans_eq_nil_of_needs {p : Pattern} (hp : p.Compiled) {ds : List Char}
    (hn : p.regex.Needs (· ∈ ds)) (hw : p.regex.Within (· ≠ '"'))
    (hds : ds.all (fun d => !isNameChar d && !isBlank d && d != '=') = true)
    (st : Style) : Rule.spans ⟨p, st⟩ (ofString l.text) = [] := by
  have h : p.matchesFrom (ofString l.text) ((ofString l.text).byteAt 0) = [] :=
    matchesFrom_eq_nil_of_needs hp hn hw (Nat.zero_le _) fun b _ hout => by
      obtain ⟨q, hbq, hq, hplain⟩ := barrier_of_outside hout
      exact ⟨q, hbq, hq, fun y h₁ h₂ ch hch => not_mem_of_plain hds (hplain y h₁ h₂ ch hch)⟩
  rw [byteAt_zero] at h
  simp [Rule.spans, quoteAwareMatches, h]

theorem spans_number (st : Style) : Rule.spans ⟨number, st⟩ (ofString l.text) = [] := by
  have h : number.matchesFrom (ofString l.text) ((ofString l.text).byteAt 0) = [] :=
    matchesFrom_number_eq_nil (Nat.zero_le (ofString l.text).chars.size)
    (fun b _ hout ch hch => by
      rcases outside_cases hch hout with ⟨-, hc, -⟩ | ⟨-, -, hc⟩ | ⟨-, rfl⟩ | ⟨-, -, hc⟩ | ⟨-, rfl⟩
      · have := isNameChar_iff.1 hc
        omega
      · have := isBlank_iff.1 hc
        omega
      · decide
      · have := isBlank_iff.1 hc
        omega
      · decide)
    (fun b _ hout ch hch hdigit => by
      have hpos := l.positions
      rcases outside_cases hch hout with ⟨hb, hc, hstart⟩ | ⟨-, -, hc⟩ | ⟨-, rfl⟩ | ⟨-, -, hc⟩ |
        ⟨-, rfl⟩
      · -- a digit of the key: not its first character, and after a character of the key
        have hd := isNameChar_iff.1 hc
        rw [CharClass.searchRanges_digit_ascii (by omega)] at hdigit
        have hb0 : 0 < b := Nat.pos_of_ne_zero fun h0 => by
          have := isNameStart_iff.1 (hstart h0)
          simp only [decide_eq_true_eq] at hdigit
          omega
        have hprev : b - 1 < l.text.toList.length := by rw [length_text]; omega
        obtain ⟨c', hc'⟩ := Option.isSome_iff_exists.1 (by simpa using hprev : l.text.toList[b - 1]?.isSome)
        have hname' : isNameChar c' = true := by
          rcases char_cases hc' with ⟨-, hn, -⟩ | ⟨h₁, -⟩ | ⟨h₁, -⟩ | ⟨h₁, -⟩ | ⟨h₁, -⟩ | ⟨h₁, -⟩ |
            ⟨h₁, -⟩
          · exact hn
          all_goals omega
        exact ⟨isWordChar_of_isNameChar hc, hb0, c', by simpa using hc', isWordChar_of_isNameChar hname'⟩
      · have := isBlank_iff.1 hc
        rw [CharClass.searchRanges_digit_ascii (by omega)] at hdigit
        simp only [decide_eq_true_eq] at hdigit
        omega
      · exact absurd hdigit (by rw [CharClass.searchRanges_digit_ascii (by decide)]; decide)
      · have := isBlank_iff.1 hc
        rw [CharClass.searchRanges_digit_ascii (by omega)] at hdigit
        simp only [decide_eq_true_eq] at hdigit
        omega
      · exact absurd hdigit (by rw [CharClass.searchRanges_digit_ascii (by decide)]; decide))
  rw [byteAt_zero] at h
  simp [Rule.spans, quoteAwareMatches, h]

/-! ## The attribute rule -/

theorem word_of_lt_key {y : Nat} (hy : y < l.key.length) : ∃ ch, (ofString l.text).chars[y]? = some ch ∧
    CharClass.searchRanges (shortClass true .word).ranges.toArray ch.toNat = true := by
  have hsize : y < l.text.toList.length := by have := l.positions; rw [length_text]; omega
  obtain ⟨ch, hch⟩ := Option.isSome_iff_exists.1 (by simpa using hsize : l.text.toList[y]?.isSome)
  refine ⟨ch, by simpa using hch, ?_⟩
  have := l.positions
  rcases char_cases hch with ⟨-, hc, -⟩ | ⟨h₁, -⟩ | ⟨rfl, -⟩ | ⟨h₁, -⟩ | ⟨rfl, -⟩ | ⟨h₁, -⟩ | ⟨rfl, -⟩
  · exact word_of_isNameChar hc
  all_goals omega

theorem space_of_before {y : Nat} (h₁ : l.key.length ≤ y) (h₂ : y < l.eqAt) :
    ∃ ch, (ofString l.text).chars[y]? = some ch ∧
      CharClass.searchRanges (shortClass true .space).ranges.toArray ch.toNat = true := by
  have hsize : y < l.text.toList.length := by have := l.positions; rw [length_text]; omega
  obtain ⟨ch, hch⟩ := Option.isSome_iff_exists.1 (by simpa using hsize : l.text.toList[y]?.isSome)
  refine ⟨ch, by simpa using hch, ?_⟩
  have := l.positions
  rcases char_cases hch with ⟨h₃, -⟩ | ⟨-, -, hc⟩ | ⟨rfl, -⟩ | ⟨h₃, -⟩ | ⟨rfl, -⟩ | ⟨h₃, -⟩ | ⟨rfl, -⟩
  · omega
  · exact space_of_isBlank hc
  all_goals omega

/-- **The attribute rule reads the key.**  From the start of the line, the one traversal of
`(\w+)\s*=` reads the key as group `1`, then the blanks and the `=`. -/
theorem traverse_configAttribute_iff {j : Nat} (σ ρ : Array (Option Nat)) :
    Expr.Traverse (ofString l.text).chars configAttributeExpr 0 σ j ρ ↔
      j = l.eqAt + 1 ∧
        ρ = (σ.setIfInBounds (2 * 1) (some 0)).setIfInBounds (2 * 1 + 1) (some l.key.length) := by
  have hpos := l.positions
  have hkey : 0 < l.key.length := by
    obtain ⟨c, cs, hs, -⟩ := isName_iff.1 l.key_isName
    rw [← String.length_toList, hs]
    exact Nat.succ_pos _
  have hafter : ∀ ch, (ofString l.text).chars[l.key.length]? = some ch →
      CharClass.searchRanges (shortClass true .word).ranges.toArray ch.toNat = false := by
    intro ch h
    rw [getElem?_chars_ofString] at h
    rcases char_cases h with ⟨h₁, -⟩ | ⟨-, -, hc⟩ | ⟨-, rfl⟩ | ⟨h₁, -⟩ | ⟨h₁, -⟩ | ⟨h₁, -⟩ | ⟨h₁, -⟩
    · omega
    · exact not_word_of_isBlank hc
    · exact not_word_of_not_isNameChar (by decide) (by decide)
    all_goals omega
  constructor
  · intro h
    cases h with
    | @cat _ _ _ _ j₁ _ _ _ hkeyRun hrest =>
      cases hkeyRun with
      | capture hrun =>
        obtain ⟨rfl, -, hwords⟩ := hrun.rep_set
        have hj₁ := hrun.le_of_rep_set (Nat.zero_le _) hafter
        cases hrest with
        | @cat _ _ _ _ j₂ _ _ _ hblanks heq =>
          obtain ⟨rfl, hj₂, hspaces⟩ := hblanks.rep_set
          obtain ⟨rfl, rfl, ch, hch, hin⟩ := heq.set_inv
          have hch' : ch = '=' := List.mem_singleton.1 (CharClass.mem_of_singles ['='] rfl (by decide) hin)
          subst hch'
          rw [getElem?_chars_ofString] at hch
          -- the run of word characters stops at the end of the key: else no blank and no `=`
          -- could follow it
          obtain rfl : j₁ = l.key.length := by
            by_contra hne
            have hname : ∀ ch, (ofString l.text).chars[j₁]? = some ch → isNameChar ch = true := by
              intro ch h
              rw [getElem?_chars_ofString] at h
              rcases char_cases h with ⟨-, hc, -⟩ | ⟨h₁, -⟩ | ⟨h₁, -⟩ | ⟨h₁, -⟩ | ⟨h₁, -⟩ | ⟨h₁, -⟩ |
                ⟨h₁, -⟩
              · exact hc
              all_goals omega
            have hstay := hblanks.le_of_rep_set le_rfl fun ch h => not_space_of_isNameChar (hname ch h)
            obtain rfl : j₂ = j₁ := Nat.le_antisymm hstay hj₂
            have := hname '=' (by rwa [getElem?_chars_ofString])
            exact absurd this (by decide)
          have hend : ∀ ch, (ofString l.text).chars[l.eqAt]? = some ch →
              CharClass.searchRanges (shortClass true .space).ranges.toArray ch.toNat = false := by
            intro ch h
            rw [getElem?_chars_ofString, getElem?_eqAt] at h
            rw [← Option.some.inj h, CharClass.searchRanges_space_ascii (by decide)]
            decide
          have hle := hblanks.le_of_rep_set hpos.1 hend
          obtain rfl : j₂ = l.eqAt := by
            by_contra hne
            rcases char_cases hch with ⟨h₁, -⟩ | ⟨-, -, hc⟩ | ⟨h₁, -⟩ | ⟨h₁, -⟩ | ⟨h₁, -⟩ | ⟨h₁, -⟩ |
              ⟨h₁, -⟩
            · omega
            · exact absurd hc (by decide)
            all_goals omega
          exact ⟨rfl, rfl⟩
  · rintro ⟨rfl, rfl⟩
    exact .cat (.capture (Expr.Traverse.rep_set_of_run _ (by omega) fun x _ hx => word_of_lt_key hx))
      (.cat (Expr.Traverse.rep_set_of_run _ (by omega) fun x h₁ h₂ => space_of_before h₁ h₂)
        (.set (by rw [getElem?_chars_ofString, getElem?_eqAt])
          (CharClass.searchRanges_of_mem_singles ['='] rfl (by decide) (List.mem_singleton_self _))))

/-- **The attribute rule styles the key**, and nothing else of the line. -/
theorem spans_configAttribute (st : Style) :
    Rule.spans ⟨configAttribute, st⟩ (ofString l.text) = [⟨0, l.key.utf8ByteSize, st⟩] := by
  have hpos := l.positions
  have hsize : l.eqAt + 1 ≤ (ofString l.text).chars.size := by simp [length_text]; omega
  have hkey : 0 < l.key.length := by
    obtain ⟨c, cs, hs, -⟩ := isName_iff.1 l.key_isName
    rw [← String.length_toList, hs]
    exact Nat.succ_pos _
  have hfind : configAttribute.findNext (ofString l.text) ((ofString l.text).byteAt 0) =
      some ⟨((ofString l.text).byteAt 0, (ofString l.text).byteAt (l.eqAt + 1)),
        some ((ofString l.text).byteAt 0, (ofString l.text).byteAt l.key.length)⟩ :=
    findNext_eq_of_unique compiled_configAttribute configAttributeProgram_targets
    configAttributeProgram_ranked (by decide) (by decide) le_rfl (by omega)
    (fun b _ hb => absurd hb (Nat.not_lt_zero _))
    (.capture ((traverse_configAttribute_iff _ _).2 ⟨rfl, rfl⟩))
    (fun _ _ h => h.capture_eq_of_unique fun _ _ hinner => (traverse_configAttribute_iff _ _).1 hinner)
    (by simp [betweenQuotes_text (Nat.zero_le l.closeAt)])
    (by simp [configAttribute, show configAttributeExpr.groupCount = 2 from rfl])
    (by simp [configAttribute, show configAttributeExpr.groupCount = 2 from rfl])
  have hrest : configAttribute.matchesFrom (ofString l.text) ((ofString l.text).byteAt (l.eqAt + 1)) = [] :=
    matchesFrom_eq_nil_of_leads compiled_configAttribute configAttributeExpr_leads hsize
      fun b hb hout ch hch hword => by
        rcases outside_cases hch hout with ⟨h₁, -⟩ | ⟨-, h₁, -⟩ | ⟨h₁, -⟩ | ⟨-, -, hc⟩ | ⟨-, rfl⟩
        · omega
        · omega
        · omega
        · rw [not_word_of_isBlank hc] at hword
          cases hword
        · exact CharClass.word_ne_quote _ hword rfl
  have hlen : (ofString l.text).byteAt (l.eqAt + 1) ≤ (ofString l.text).byteLength := by
    simpa using byteAt_le_byteLength hsize
  have hgrow : (ofString l.text).byteAt 0 < (ofString l.text).byteAt (l.eqAt + 1) :=
    byteAt_lt_byteAt (by omega) hsize
  have hstyled : 0 < l.key.utf8ByteSize := by
    simpa [byteAt_zero, byteAt_key] using
      byteAt_lt_byteAt hkey (show l.key.length ≤ (ofString l.text).chars.size by omega)
  rw [Rule.spans, quoteAwareMatches, ← byteAt_zero l.text, matchesFrom_of_findNext hfind ⟨hgrow, hlen⟩,
    hrest]
  simp [Rule.styledSpan, hstyled, byteAt_zero, byteAt_key]

/-! ## The operator rule and the value -/

theorem blank_or_quote_of_outside {b : Nat} (hb : l.eqAt < b) {ch : Char}
    (hch : (ofString l.text).chars[b]? = some ch)
    (hout : (ofString l.text).betweenQuotes ((ofString l.text).byteAt b) = false) :
    isBlank ch = true ∨ ch = '"' := by
  have hpos := l.positions
  rcases outside_cases hch hout with ⟨h₁, -⟩ | ⟨-, h₁, -⟩ | ⟨h₁, -⟩ | ⟨-, -, hc⟩ | ⟨-, hc⟩
  · omega
  · omega
  · omega
  · exact .inl hc
  · exact .inr hc

/-- **The operator rule styles the `=`**, and nothing else of the line. -/
theorem spans_configOperator (st : Style) :
    Rule.spans ⟨configOperator, st⟩ (ofString l.text) =
      [⟨(l.key ++ l.before).utf8ByteSize, (l.key ++ l.before).utf8ByteSize + 1, st⟩] := by
  have hpos := l.positions
  have hsize : l.eqAt + 1 ≤ (ofString l.text).chars.size := by simp [length_text]; omega
  have hops : [':', '=', '[', ']', '{', '}'].all
      (fun d => !isNameChar d && !isBlank d && d != '"') = true := by decide
  have hfind : configOperator.findNext (ofString l.text) ((ofString l.text).byteAt 0) =
      some ⟨((ofString l.text).byteAt l.eqAt, (ofString l.text).byteAt (l.eqAt + 1)),
        some ((ofString l.text).byteAt l.eqAt, (ofString l.text).byteAt (l.eqAt + 1))⟩ :=
    findNext_eq_of_unique compiled_configOperator configOperatorProgram_targets
      configOperatorProgram_ranked (by decide) (by decide) (Nat.zero_le _) (by omega)
      (fun b _ hb k σ ρ htr => by
        obtain ⟨ch, hch, hmem⟩ := htr.leads configOperatorExpr_leads
        rw [getElem?_chars_ofString] at hch
        have hplain : isNameChar ch = true ∨ isBlank ch = true := by
          rcases char_cases hch with ⟨-, hc, -⟩ | ⟨-, -, hc⟩ | ⟨h₁, -⟩ | ⟨h₁, -⟩ | ⟨h₁, -⟩ | ⟨h₁, -⟩ |
            ⟨h₁, -⟩
          · exact .inl hc
          · exact .inr hc
          all_goals omega
        have hd := List.all_eq_true.1 hops ch hmem
        rcases hplain with hc | hc <;> simp [hc] at hd)
      (.capture (.set (by rw [getElem?_chars_ofString, getElem?_eqAt])
        (CharClass.searchRanges_of_mem_singles [':', '=', '[', ']', '{', '}'] rfl (by decide)
          (by decide))))
      (fun _ _ h => h.capture_eq_of_unique fun _ _ hinner => ⟨hinner.set_inv.1, hinner.set_inv.2.1⟩)
      (by simp [betweenQuotes_text (show l.eqAt ≤ l.closeAt by omega), hpos.2.1.le])
      (by simp [configOperator, show configOperatorExpr.groupCount = 1 from rfl])
      (by simp [configOperator, show configOperatorExpr.groupCount = 1 from rfl])
  have hrest : configOperator.matchesFrom (ofString l.text) ((ofString l.text).byteAt (l.eqAt + 1)) = [] :=
    matchesFrom_eq_nil_of_leads compiled_configOperator configOperatorExpr_leads hsize
      fun b hb hout ch hch hmem => by
        have hd := List.all_eq_true.1 hops ch hmem
        rcases blank_or_quote_of_outside (by omega) hch hout with hc | rfl
        · simp [hc] at hd
        · simp at hd
  have hlen : (ofString l.text).byteAt (l.eqAt + 1) ≤ (ofString l.text).byteLength := by
    simpa using byteAt_le_byteLength hsize
  have hgrow : (ofString l.text).byteAt 0 < (ofString l.text).byteAt (l.eqAt + 1) :=
    byteAt_lt_byteAt (by omega) hsize
  rw [Rule.spans, quoteAwareMatches, ← byteAt_zero l.text, matchesFrom_of_findNext hfind ⟨hgrow, hlen⟩,
    hrest]
  simp [Rule.styledSpan, byteAt_eqAt, byteAt_eqAt_succ]

theorem quotesFrom_text : quotesFrom (ofString l.text).chars 0 = [l.openAt, l.closeAt] := by
  have hpos := l.positions
  have hvalue : ∀ y, l.openAt + 1 ≤ y → y < l.closeAt + 1 - 1 →
      ((ofString l.text).chars[y]? == some '"') = false := by
    intro y h₁ h₂
    simp only [getElem?_chars_ofString, beq_eq_false_iff_ne, ne_eq]
    intro hy
    rcases char_cases hy with ⟨h₃, -⟩ | ⟨-, h₃, -⟩ | ⟨h₃, -⟩ | ⟨-, h₃, -⟩ | ⟨h₃, -⟩ | ⟨-, -, hne⟩ |
      ⟨h₃, -⟩
    · omega
    · omega
    · omega
    · omega
    · omega
    · exact hne rfl
    · omega
  rw [quotesFrom, size_chars_ofString, length_text, range'_split (Nat.zero_le l.openAt) (by omega),
    List.filter_append, filter_range'_eq_nil fun y _ hy => by
      simpa using ne_quote_of_lt_openAt (by omega : y < l.openAt),
    show l.closeAt + 1 - l.openAt = (l.closeAt + 1 - (l.openAt + 1)) + 1 by omega, List.range'_succ,
    List.filter_cons_of_pos (by simp [getElem?_openAt]),
    range'_split (show l.openAt + 1 ≤ l.closeAt by omega) (show l.closeAt ≤ l.closeAt + 1 by omega),
    List.filter_append, filter_range'_eq_nil fun y h₁ h₂ => hvalue y h₁ (by omega),
    show l.closeAt + 1 - l.closeAt = 1 by omega, List.range'_one,
    List.filter_cons_of_pos (by simp [getElem?_closeAt])]
  rfl

/-- **The value rule styles the quoted value**, both quotes included. -/
theorem spans_value (st : Style) :
    Rule.spans ⟨Pattern.quoted, st⟩ (ofString l.text) =
      [⟨(l.key ++ l.before ++ "=" ++ l.after).utf8ByteSize, l.text.utf8ByteSize, st⟩] := by
  rw [spans_quoted, quotesFrom_text]
  simp [pairUp, byteAt_openAt, byteAt_end]

theorem findNext_slashStar : slashStar.findNext (ofString l.text) 0 = none := by
  have h : slashStar.findNext (ofString l.text) ((ofString l.text).byteAt 0) = none :=
    findNext_eq_none_of_leads compiled_slashStar slashStarExpr_leads (Nat.zero_le _)
      fun b _ hout ch hch => not_mem_of_outside (by decide) hch hout
  rwa [byteAt_zero] at h

end KeyValue

namespace Grammar

open KeyValue Pattern Regex

/-- **Keys and quoted values do not interfere.**  On a line `k = "v"` the key, the quoted value
and the `=` are styled, and nothing inside the quotes is, whatever the value holds. -/
theorem configGrammar_key_value_spans (k sp1 sp2 v : String) (hk : isName k = true)
    (hsp1 : ∀ c ∈ sp1.toList, isBlank c = true) (hsp2 : ∀ c ∈ sp2.toList, isBlank c = true)
    (hv : '"' ∉ v.toList) :
    configGrammar.tokenizeLine (k ++ sp1 ++ "=" ++ sp2 ++ "\"" ++ v ++ "\"") .code =
      ⟨[⟨0, k.utf8ByteSize, .attributeName⟩,
        ⟨(k ++ sp1 ++ "=" ++ sp2).utf8ByteSize,
          (k ++ sp1 ++ "=" ++ sp2 ++ "\"" ++ v ++ "\"").utf8ByteSize, .value⟩,
        ⟨(k ++ sp1).utf8ByteSize, (k ++ sp1).utf8ByteSize + 1, .operator⟩], .code⟩ := by
  let l : KeyValue := ⟨k, sp1, sp2, v, hk, hsp1, hsp2, hv⟩
  change configGrammar.tokenizeLine l.text .code =
    ⟨[⟨0, l.key.utf8ByteSize, .attributeName⟩,
      ⟨(l.key ++ l.before ++ "=" ++ l.after).utf8ByteSize, l.text.utf8ByteSize, .value⟩,
      ⟨(l.key ++ l.before).utf8ByteSize, (l.key ++ l.before).utf8ByteSize + 1, .operator⟩], .code⟩
  have hscan : BlockComment.scan ⟨slashStar, starSlash⟩ (Subject.ofString l.text) .code =
      ([], .code) := by
    rw [BlockComment.scan, BlockComment.scanFrom]
    simp only [findNext_slashStar]
  rw [tokenizeLine_of_blockComment configGrammar_blockComment, hscan, ruleSpans, configGrammar_rules]
  simp only [List.flatMap_cons, List.flatMap_nil,
    spans_eq_nil_of_needs compiled_configElement configElementExpr_needs configElementExpr_within
      (by decide),
    spans_configAttribute,
    spans_eq_nil_of_needs compiled_configLabel configLabelExpr_needs configLabelExpr_within
      (by decide),
    spans_value,
    spans_eq_nil_of_leads compiled_hashWord hashWordExpr_leads (by decide),
    spans_eq_nil_of_leads compiled_doubleAngle doubleAngleExpr_leads (by decide),
    spans_eq_nil_of_leads compiled_arrow arrowExpr_leads (by decide),
    spans_configOperator, spans_number,
    spans_eq_nil_of_leads compiled_macroWord macroWordExpr_leads (by decide),
    spans_eq_nil_of_leads compiled_configComment configCommentExpr_leads (by decide)]
  rfl

/-- The line `port = "…"` with a value full of what the other rules look for. -/
theorem configGrammar_key_value_spans_port :
    isName "port" = true ∧ (∀ c ∈ " ".toList, isBlank c = true) ∧
      (∀ c ∈ "\t".toList, isBlank c = true) ∧ '"' ∉ "\x7bx\x7d = [1]; // #y /* <<z>> @w".toList ∧
      configGrammar.tokenizeLine
          ("port" ++ " " ++ "=" ++ "\t" ++ "\"" ++ "\x7bx\x7d = [1]; // #y /* <<z>> @w" ++ "\"") .code =
        ⟨[⟨0, "port".utf8ByteSize, .attributeName⟩,
          ⟨("port" ++ " " ++ "=" ++ "\t").utf8ByteSize,
            ("port" ++ " " ++ "=" ++ "\t" ++ "\"" ++ "\x7bx\x7d = [1]; // #y /* <<z>> @w" ++ "\"").utf8ByteSize,
            .value⟩,
          ⟨("port" ++ " ").utf8ByteSize, ("port" ++ " ").utf8ByteSize + 1, .operator⟩], .code⟩ := by
  have hk : isName "port" = true := by decide
  have h₁ : ∀ c ∈ " ".toList, isBlank c = true := by simp [isBlank]
  have h₂ : ∀ c ∈ "\t".toList, isBlank c = true := by simp [isBlank]
  have hv : '"' ∉ "\x7bx\x7d = [1]; // #y /* <<z>> @w".toList := by decide
  exact ⟨hk, h₁, h₂, hv, configGrammar_key_value_spans _ _ _ _ hk h₁ h₂ hv⟩

end Grammar

end Highlight
