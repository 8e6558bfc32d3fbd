import Mathlib
import Highlight.Proofs.RangeSearch
import Highlight.Regex.Escape

/-!
# Names, blanks and the Unicode classes below code point 128

The Unicode classes `\w`, `\s` and `\d` hold hundreds of ranges, but below code point `128` they
are the ASCII word characters, the ASCII blanks from tab to carriage return with the space, and
the ASCII digits: every other range starts at `128` or beyond (`searchRanges_word_ascii`,
`searchRanges_space_ascii`, `searchRanges_digit_ascii`).  The binary search needs its ranges in
order, which for classes of this size is checked between neighbours (`Chained.ordered`).  A
class of one character, or of all characters but one, answers by comparing characters
(`searchRanges_single`, `searchRanges_allBut`).

Names (`[A-Za-z_][A-Za-z0-9_]*`) and blanks (space and tab) are what the lines of the built-in
grammars' tests are made of; their characters are ASCII, so the classes read them through these
lemmas.
-/

namespace Highlight

namespace Regex.CharClass

/-- Ranges whose ends are in order and each of which ends below the start of the next one. -/
def Chained (rs : List (Nat × Nat)) : Prop :=
  (∀ r ∈ rs, r.1 ≤ r.2) ∧ rs.IsChain fun a b => a.2 < b.1

instance (rs : List (Nat × Nat)) : Decidable (Chained rs) :=
  inferInstanceAs (Decidable ((∀ r ∈ rs, r.1 ≤ r.2) ∧ rs.IsChain fun a b => a.2 < b.1))

theorem Chained.pairwise : ∀ {rs : List (Nat × Nat)}, Chained rs → rs.Pairwise fun a b => a.2 < b.1
  | [], _ => .nil
  | a :: rs, ⟨hle, hchain⟩ => by
    have htail : Chained rs := ⟨fun r hr => hle r (.tail _ hr), hchain.tail⟩
    refine .cons (fun b hb => ?_) htail.pairwise
    cases rs with
    | nil => cases hb
    | cons c rs =>
      have hac : a.2 < c.1 := (List.isChain_cons_cons.1 hchain).1
      have hc := hle c (by simp)
      rcases List.mem_cons.1 hb with rfl | hb
      · exact hac
      · have := List.rel_of_pairwise_cons htail.pairwise hb
        omega

theorem Chained.ordered {rs : Array (Nat × Nat)} (h : Chained rs.toList) : Ordered rs := by
  have hpair := List.pairwise_iff_getElem.1 h.pairwise
  refine ⟨fun i hi => h.1 _ (Array.getElem_mem_toList hi), fun j hj i hij => ?_⟩
  have := hpair i j (by simpa using Nat.lt_trans hij hj) (by simpa using hj) hij
  simp only [Array.getElem_toList] at this
  exact this

theorem searchRanges_of_ascii {rs : Array (Nat × Nat)} (h : Ordered rs) (pre : List (Nat × Nat))
    (hpre : rs.toList.take pre.length = pre)
    (hrest : ∀ r ∈ rs.toList.drop pre.length, 128 ≤ r.1) {n : Nat} (hn : n < 128) :
    searchRanges rs n = pre.any fun r => decide (r.1 ≤ n ∧ n ≤ r.2) := by
  have hdrop : (rs.toList.drop pre.length).any (fun r => decide (r.1 ≤ n ∧ n ≤ r.2)) = false := by
    rw [List.any_eq_false]
    intro r hr
    have := hrest r hr
    simp only [decide_eq_true_eq, not_and, not_le]
    omega
  rw [searchRanges_eq_any h, ← List.take_append_drop pre.length rs.toList, List.any_append, hpre,
    hdrop, Bool.or_false]

theorem searchRanges_word_ascii {n : Nat} (hn : n < 128) :
    searchRanges (shortClass true .word).ranges.toArray n =
      decide ((48 ≤ n ∧ n ≤ 57) ∨ (65 ≤ n ∧ n ≤ 90) ∨ n = 95 ∨ (97 ≤ n ∧ n ≤ 122)) := by
  rw [searchRanges_of_ascii (Chained.ordered (by decide +kernel))
    [(48, 57), (65, 90), (95, 95), (97, 122)] (by decide +kernel) (by decide +kernel) hn]
  apply Bool.eq_iff_iff.2
  simp only [List.any_cons, List.any_nil, Bool.or_false, Bool.or_eq_true, decide_eq_true_eq]
  omega

theorem searchRanges_space_ascii {n : Nat} (hn : n < 128) :
    searchRanges (shortClass true .space).ranges.toArray n =
      decide ((9 ≤ n ∧ n ≤ 13) ∨ n = 32) := by
  rw [searchRanges_of_ascii (Chained.ordered (by decide +kernel)) [(9, 13), (32, 32)] (by decide +kernel)
    (by decide +kernel) hn]
  apply Bool.eq_iff_iff.2
  simp only [List.any_cons, List.any_nil, Bool.or_false, Bool.or_eq_true, decide_eq_true_eq]
  omega

theorem searchRanges_digit_ascii {n : Nat} (hn : n < 128) :
    searchRanges (shortClass true .digit).ranges.toArray n = decide (48 ≤ n ∧ n ≤ 57) := by
  rw [searchRanges_of_ascii (Chained.ordered (by decide +kernel)) [(48, 57)] (by decide +kernel)
    (by decide +kernel) hn]
  simp

theorem searchRanges_single {d : Char} {n : Nat} (hd : d.toNat = n) (c : Char) :
    searchRanges #[(n, n)] c.toNat = decide (c = d) := by
  have hord : Ordered #[(n, n)] :=
    ⟨fun i h => by simp, fun j hj i hij => absurd hj (by simp; omega)⟩
  rw [searchRanges_eq_any hord]
  apply Bool.eq_iff_iff.2
  simp only [List.any_cons, List.any_nil, Bool.or_false, decide_eq_true_eq, ← hd,
    ← Char.toNat_inj (c := c)]
  omega

theorem searchRanges_allBut {d : Char} {a b : Nat} (ha : a + 1 = d.toNat) (hb : d.toNat + 1 = b)
    (hs : b ≤ 55295) (c : Char) :
    searchRanges #[(0, a), (b, 55295), (57344, 1114111)] c.toNat = decide (c ≠ d) := by
  have hord : Chained [(0, a), (b, 55295), (57344, 1114111)] := by
    refine ⟨fun r hr => ?_, ?_⟩
    · simp only [List.mem_cons, List.not_mem_nil, or_false] at hr
      rcases hr with rfl | rfl | rfl <;> simp [hs]
    · simp only [List.isChain_cons_cons, List.isChain_singleton, and_true]
      omega
  have hvalid := c.valid
  simp only [UInt32.isValidChar, Nat.isValidChar, Char.toNat_val] at hvalid
  rw [searchRanges_eq_any (Chained.ordered hord)]
  apply Bool.eq_iff_iff.2
  simp only [List.any_cons, List.any_nil, Bool.or_false, Bool.or_eq_true, decide_eq_true_eq,
    ne_eq, ← Char.toNat_inj (c := c)]
  omega

end Regex.CharClass

/-- A character that may start a name: an ASCII letter or the underscore. -/
def isNameStart (c : Char) : Bool := c.isAlpha || c == '_'

/-- A character of a name: an ASCII letter or digit, or the underscore. -/
def isNameChar (c : Char) : Bool := c.isAlphanum || c == '_'

/-- A name: a character that may start one followed by characters of names
(`[A-Za-z_][A-Za-z0-9_]*`). -/
def isName (s : String) : Bool :=
  match s.toList with
  | [] => false
  | c :: cs => isNameStart c && cs.all isNameChar

/-- A blank within a line: the space or the tab. -/
def isBlank (c : Char) : Bool := c == ' ' || c == '\t'

theorem isNameChar_iff {c : Char} :
    isNameChar c = true ↔ (48 ≤ c.toNat ∧ c.toNat ≤ 57) ∨ (65 ≤ c.toNat ∧ c.toNat ≤ 90) ∨
      c.toNat = 95 ∨ (97 ≤ c.toNat ∧ c.toNat ≤ 122) := by
  have h95 : c = '_' ↔ c.toNat = 95 := ⟨fun h => h ▸ rfl, fun h => Char.toNat_inj.1 h⟩
  simp only [isNameChar, Char.isAlphanum, Char.isAlpha, Char.isUpper, Char.isLower, Char.isDigit,
    UInt32.le_iff_toNat_le, Bool.or_eq_true, decide_eq_true_eq, beq_iff_eq, h95, Char.toNat_val]
  simp
  omega

theorem isNameStart_iff {c : Char} :
    isNameStart c = true ↔ (65 ≤ c.toNat ∧ c.toNat ≤ 90) ∨ c.toNat = 95 ∨
      (97 ≤ c.toNat ∧ c.toNat ≤ 122) := by
  have h95 : c = '_' ↔ c.toNat = 95 := ⟨fun h => h ▸ rfl, fun h => Char.toNat_inj.1 h⟩
  simp only [isNameStart, Char.isAlpha, Char.isUpper, Char.isLower, UInt32.le_iff_toNat_le,
    Bool.or_eq_true, decide_eq_true_eq, beq_iff_eq, h95, Char.toNat_val]
  simp
  omega

theorem isBlank_iff {c : Char} : isBlank c = true ↔ c.toNat = 32 ∨ c.toNat = 9 := by
  simp only [isBlank, Bool.or_eq_true, beq_iff_eq, ← Char.toNat_inj (c := c)]
  rfl

theorem isNameChar_of_isNameStart {c : Char} (h : isNameStart c = true) : isNameChar c = true :=
  isNameChar_iff.2 (by have := isNameStart_iff.1 h; omega)

theorem isName_iff {s : String} : isName s = true ↔
    ∃ c cs, s.toList = c :: cs ∧ isNameStart c = true ∧ ∀ d ∈ cs, isNameChar d = true := by
  unfold isName
  split <;> simp_all [List.all_eq_true]

theorem length_pos_of_isName {s : String} (h : isName s = true) : 0 < s.length := by
  obtain ⟨c, cs, hs, -⟩ := isName_iff.1 h
  rw [← String.length_toList, hs]
  exact Nat.succ_pos _

theorem isNameChar_of_mem_isName {s : String} (h : isName s = true) {c : Char} (hc : c ∈ s.toList) :
    isNameChar c = true := by
  obtain ⟨d, ds, hs, hd, hds⟩ := isName_iff.1 h
  rw [hs] at hc
  rcases List.mem_cons.1 hc with rfl | hc
  · exact isNameChar_of_isNameStart hd
  · exact hds c hc

theorem toNat_lt_of_isNameChar {c : Char} (h : isNameChar c = true) : c.toNat < 128 := by
  have := isNameChar_iff.1 h
  omega

theorem isWordChar_of_isNameChar {c : Char} (h : isNameChar c = true) : Unicode.isWordChar c = true := by
  rw [Unicode.isWordChar, if_pos (toNat_lt_of_isNameChar h)]
  exact h

theorem word_of_isNameChar {c : Char} (h : isNameChar c = true) :
    Regex.CharClass.searchRanges (Regex.shortClass true .word).ranges.toArray c.toNat = true := by
  have := isNameChar_iff.1 h
  rw [Regex.CharClass.searchRanges_word_ascii (by omega)]
  simp only [decide_eq_true_eq]
  omega

theorem not_word_of_not_isNameChar {c : Char} (hc : c.toNat < 128) (h : isNameChar c = false) :
    Regex.CharClass.searchRanges (Regex.shortClass true .word).ranges.toArray c.toNat = false := by
  have : ¬ ((48 ≤ c.toNat ∧ c.toNat ≤ 57) ∨ (65 ≤ c.toNat ∧ c.toNat ≤ 90) ∨ c.toNat = 95 ∨
      (97 ≤ c.toNat ∧ c.toNat ≤ 122)) := fun h' => by simp [isNameChar_iff.2 h'] at h
  rw [Regex.CharClass.searchRanges_word_ascii hc]
  simp only [decide_eq_false_iff_not]
  omega

theorem not_word_of_isBlank {c : Char} (h : isBlank c = true) :
    Regex.CharClass.searchRanges (Regex.shortClass true .word).ranges.toArray c.toNat = false := by
  have hb := isBlank_iff.1 h
  refine not_word_of_not_isNameChar (by omega) (Bool.eq_false_iff.2 fun h' => ?_)
  have := isNameChar_iff.1 h'
  omega

theorem space_of_isBlank {c : Char} (h : isBlank c = true) :
    Regex.CharClass.searchRanges (Regex.shortClass true .space).ranges.toArray c.toNat = true := by
  have := isBlank_iff.1 h
  rw [Regex.CharClass.searchRanges_space_ascii (by omega)]
  simp only [decide_eq_true_eq]
  omega

theorem not_space_of_isNameChar {c : Char} (h : isNameChar c = true) :
    Regex.CharClass.searchRanges (Regex.shortClass true .space).ranges.toArray c.toNat = false := by
  have := isNameChar_iff.1 h
  rw [Regex.CharClass.searchRanges_space_ascii (by omega)]
  simp only [decide_eq_false_iff_not]
  omega

end Highlight
