import Mathlib
import Highlight.Proofs.MarkupRules

/-!
# Markup tags

A tag `<name a₁="v₁" … aₘ="vₘ">`, or one closed by `/>`, is a `Tag`: a name, a list of
attributes and a closer.  An attribute (`TagAttribute`) is a name and a value with no quote
inside, written ` a="v"`.  This module lays the line of a tag out character by character:

* an attribute's text holds a space, its name, `=`, and the quoted value
  (`TagAttribute.char_cases`), with the quotes before each of its positions counted
  (`TagAttribute.count_take`);
* in the line, the attribute after the attributes `pre` starts at `Tag.attrAt pre`, after two
  quotes for each attribute of `pre` (`Tag.getElem?_attrAt_add`, `Tag.count_take_attrAt_add`);
* outside quotes the line holds its opening `<`, name characters, spaces, `=`, opening quotes
  and the closer (`Tag.outside_cases`), and from any position between quotes a quote follows
  before the closer (`Tag.exists_quote_of_inside`).
-/

namespace Highlight

/-- An attribute of a markup tag: a name, and a value with no quote inside. -/
structure TagAttribute where
  name : String
  value : String
  name_isName : isName name = true
  value_noQuote : '"' ∉ value.toList

namespace TagAttribute

variable (a : TagAttribute)

/-- The text of an attribute in a tag: a space, the name, `=` and the value in quotes. -/
def text : String := " " ++ a.name ++ "=\"" ++ a.value ++ "\""

/-- The index of the `=` in the text. -/
def eqAt : Nat := a.name.length + 1

/-- The index of the opening quote in the text. -/
def openAt : Nat := a.name.length + 2

/-- The index of the closing quote in the text. -/
def closeAt : Nat := a.name.length + 3 + a.value.length

theorem toList_text :
    a.text.toList = ' ' :: (a.name.toList ++ '=' :: '"' :: (a.value.toList ++ ['"'])) := by
  simp [text]

theorem length_text : a.text.length = a.closeAt + 1 := by
  rw [← String.length_toList, toList_text]
  simp only [List.length_cons, List.length_append, List.length_nil, String.length_toList, closeAt]
  omega

variable {a}

theorem name_length_pos : 0 < a.name.length := length_pos_of_isName a.name_isName

theorem positions : 1 < a.eqAt ∧ a.eqAt + 1 = a.openAt ∧ a.openAt < a.closeAt ∧
    a.text.length = a.closeAt + 1 := by
  have := name_length_pos (a := a)
  refine ⟨?_, ?_, ?_, length_text a⟩ <;> simp only [eqAt, openAt, closeAt] <;> omega

/-- **What each position of an attribute holds**: a space; the name's characters, the first one
starting a name; the `=`; the opening quote; the value's characters, none a quote; the closing
quote. -/
theorem char_cases {k : Nat} {ch : Char} (h : a.text.toList[k]? = some ch) :
    (k = 0 ∧ ch = ' ') ∨
    (0 < k ∧ k < a.eqAt ∧ isNameChar ch = true ∧ (k = 1 → isNameStart ch = true)) ∨
    (k = a.eqAt ∧ ch = '=') ∨ (k = a.openAt ∧ ch = '"') ∨
    (a.openAt < k ∧ k < a.closeAt ∧ ch ≠ '"') ∨ (k = a.closeAt ∧ ch = '"') := by
  cases k with
  | zero => exact .inl ⟨rfl, by simpa [toList_text] using h.symm⟩
  | succ k =>
    simp only [toList_text, List.getElem?_cons_succ, List.getElem?_append, List.getElem?_cons,
      String.length_toList] at h
    split_ifs at h with h₁ h₂ h₃ h₄ h₅
    · -- the name
      refine .inr (.inl ⟨Nat.succ_pos _, by simp only [eqAt]; omega,
        isNameChar_of_mem_isName a.name_isName (List.mem_of_getElem? h), fun h1 => ?_⟩)
      obtain ⟨c, cs, hs, hc, -⟩ := isName_iff.1 a.name_isName
      rw [show k = 0 by omega, hs] at h
      simpa [← Option.some.inj h] using hc
    · exact .inr (.inr (.inl ⟨by simp only [eqAt]; omega, (Option.some.inj h).symm⟩))
    · exact .inr (.inr (.inr (.inl ⟨by simp only [openAt]; omega, (Option.some.inj h).symm⟩)))
    · refine .inr (.inr (.inr (.inr (.inl ⟨by simp only [openAt]; omega,
        by simp only [closeAt]; omega, fun hq => ?_⟩))))
      exact a.value_noQuote (hq ▸ List.mem_of_getElem? h)
    · exact .inr (.inr (.inr (.inr (.inr ⟨by simp only [closeAt]; omega,
        (Option.some.inj h).symm⟩))))
    · simp at h

theorem getElem?_eqAt : a.text.toList[a.eqAt]? = some '=' := by
  rw [toList_text, eqAt, List.getElem?_cons_succ,
    List.getElem?_append_right (by simp [String.length_toList])]
  simp [String.length_toList]

theorem getElem?_openAt : a.text.toList[a.openAt]? = some '"' := by
  rw [toList_text, openAt, List.getElem?_cons_succ,
    List.getElem?_append_right (by simp [String.length_toList])]
  simp [String.length_toList]

theorem getElem?_closeAt : a.text.toList[a.closeAt]? = some '"' := by
  rw [toList_text, closeAt, show a.name.length + 3 + a.value.length =
    (a.name.length + 2 + a.value.length) + 1 by omega, List.getElem?_cons_succ,
    List.getElem?_append_right (by simp [String.length_toList]; omega)]
  simp [String.length_toList,
    show a.name.length + 2 + a.value.length - a.name.length = a.value.length + 2 by omega]

theorem ne_quote_of_lt_openAt {k : Nat} (hk : k < a.openAt) : a.text.toList[k]? ≠ some '"' := by
  intro h
  rcases char_cases h with ⟨-, hc⟩ | ⟨-, -, hc, -⟩ | ⟨-, hc⟩ | ⟨rfl, -⟩ | ⟨h₁, -⟩ | ⟨rfl, -⟩
  · exact absurd hc (by decide)
  · exact absurd hc (by decide)
  · exact absurd hc (by decide)
  · exact absurd hk (Nat.lt_irrefl _)
  · omega
  · simp only [closeAt, openAt] at hk
    omega

theorem count_take {k : Nat} (hk : k ≤ a.closeAt + 1) :
    (a.text.toList.take k).count '"' =
      if k ≤ a.openAt then 0 else if k ≤ a.closeAt then 1 else 2 := by
  have hopen : (a.text.toList.take a.openAt).count '"' = 0 := by
    rw [count_take_of_no_quote (Nat.zero_le _) fun y _ h₂ => ne_quote_of_lt_openAt h₂]
    rfl
  have hvalue : ∀ z, a.openAt + 1 ≤ z → z < a.closeAt → a.text.toList[z]? ≠ some '"' := by
    intro z h₁ h₂ hz
    rcases char_cases hz with ⟨rfl, -⟩ | ⟨-, h₃, -⟩ | ⟨rfl, -⟩ | ⟨rfl, -⟩ | ⟨-, -, hne⟩ | ⟨rfl, -⟩
    · simp only [openAt] at h₁
      omega
    · simp only [openAt, eqAt] at h₁ h₃
      omega
    · simp only [openAt, eqAt] at h₁
      omega
    · omega
    · exact hne rfl
    · omega
  have hclose : (a.text.toList.take a.closeAt).count '"' = 1 := by
    rw [count_take_of_no_quote (show a.openAt + 1 ≤ a.closeAt by simp only [openAt, closeAt]; omega)
      hvalue, count_take_succ, hopen, if_pos getElem?_openAt]
  by_cases h₁ : k ≤ a.openAt
  · rw [if_pos h₁, count_take_of_no_quote (Nat.zero_le _) fun z _ h₂ => ne_quote_of_lt_openAt (by omega)]
    rfl
  · rw [if_neg h₁]
    by_cases h₂ : k ≤ a.closeAt
    · rw [if_pos h₂, count_take_of_no_quote (show a.openAt + 1 ≤ k by omega)
        fun z h₃ h₄ => hvalue z h₃ (by omega), count_take_succ, hopen, if_pos getElem?_openAt]
    · rw [if_neg h₂, show k = a.closeAt + 1 by omega, count_take_succ, hclose,
        if_pos getElem?_closeAt]

theorem count_text : a.text.toList.count '"' = 2 := by
  have h := count_take (a := a) le_rfl
  have hlen : a.closeAt + 1 = a.text.toList.length := by rw [String.length_toList, length_text]
  rw [if_neg (by simp only [openAt, closeAt]; omega), if_neg (by omega), hlen, List.take_length] at h
  exact h

end TagAttribute

/-- A markup tag: `<`, a name, attributes, and the closer `>` or `/>`. -/
structure Tag where
  name : String
  attributes : List TagAttribute
  closer : String
  name_isName : isName name = true
  closer_cases : closer = ">" ∨ closer = "/>"

namespace Tag

variable (g : Tag)

/-- The line of the tag. -/
def text : String := "<" ++ g.name ++ String.join (g.attributes.map TagAttribute.text) ++ g.closer

/-- The text of the tag before the attributes `pre`. -/
def before (pre : List TagAttribute) : String :=
  "<" ++ g.name ++ String.join (pre.map TagAttribute.text)

/-- The index at which the attribute after the attributes `pre` starts. -/
def attrAt (pre : List TagAttribute) : Nat := (g.before pre).length

/-- The index at which the closer starts. -/
def closerAt : Nat := g.attrAt g.attributes

variable {g} {pre post : List TagAttribute} {a : TagAttribute}

theorem toList_before (pre : List TagAttribute) :
    (g.before pre).toList = '<' :: (g.name.toList ++ pre.flatMap fun a => a.text.toList) := by
  simp [before, List.flatMap_map]

theorem attrAt_nil : g.attrAt [] = g.name.length + 1 := by
  simp [attrAt, ← String.length_toList, toList_before]

theorem attrAt_append_singleton : g.attrAt (pre ++ [a]) = g.attrAt pre + a.text.length := by
  simp only [attrAt, ← String.length_toList, toList_before, List.flatMap_append, List.length_cons,
    List.length_append, List.flatMap_cons, List.flatMap_nil, List.append_nil]
  omega

theorem toList_text_of_eq (h : g.attributes = pre ++ post) :
    g.text.toList = (g.before pre).toList ++
      ((post.flatMap fun a => a.text.toList) ++ g.closer.toList) := by
  simp [text, toList_before, h, List.flatMap_map]

theorem length_text : g.text.toList.length = g.closerAt + g.closer.length := by
  rw [toList_text_of_eq (show g.attributes = g.attributes ++ [] from (List.append_nil _).symm)]
  simp [closerAt, attrAt, String.length_toList]

theorem getElem?_zero : g.text.toList[0]? = some '<' := by
  simp [text]

theorem getElem?_name {y : Nat} (hy : y < g.name.length) :
    g.text.toList[y + 1]? = g.name.toList[y]? := by
  rw [toList_text_of_eq (show g.attributes = [] ++ g.attributes from rfl), toList_before,
    List.cons_append, List.getElem?_cons_succ,
    List.append_assoc, List.getElem?_append_left (by rwa [String.length_toList])]

theorem getElem?_attrAt_add (h : g.attributes = pre ++ a :: post) {k : Nat}
    (hk : k < a.text.length) : g.text.toList[g.attrAt pre + k]? = a.text.toList[k]? := by
  rw [toList_text_of_eq h, attrAt, ← String.length_toList,
    List.getElem?_append_right (by omega), Nat.add_sub_cancel_left, List.flatMap_cons,
    List.append_assoc, List.getElem?_append_left (by rwa [String.length_toList])]

theorem getElem?_closerAt_add (k : Nat) : g.text.toList[g.closerAt + k]? = g.closer.toList[k]? := by
  rw [toList_text_of_eq (show g.attributes = g.attributes ++ [] from (List.append_nil _).symm),
    closerAt, attrAt, ← String.length_toList, List.getElem?_append_right (by omega),
    Nat.add_sub_cancel_left]
  simp

theorem closer_char {k : Nat} {ch : Char} (h : g.closer.toList[k]? = some ch) :
    ch = '>' ∨ ch = '/' := by
  have hmem := List.mem_of_getElem? h
  rcases g.closer_cases with hc | hc <;> rw [hc] at hmem <;> simp at hmem <;> tauto

/-! ## Quotes -/

theorem quote_not_mem_name : '"' ∉ g.name.toList := fun h =>
  absurd (isNameChar_of_mem_isName g.name_isName h) (by decide)

theorem count_flatMap_text (l : List TagAttribute) :
    (l.flatMap fun a => a.text.toList).count '"' = 2 * l.length := by
  induction l with
  | nil => rfl
  | cons a l ih =>
    rw [List.flatMap_cons, List.count_append, TagAttribute.count_text, ih, List.length_cons]
    omega

theorem count_before (pre : List TagAttribute) : (g.before pre).toList.count '"' = 2 * pre.length := by
  simp [toList_before, List.count_eq_zero.2 quote_not_mem_name, count_flatMap_text]

theorem count_take_attrAt_add (h : g.attributes = pre ++ a :: post) {k : Nat}
    (hk : k ≤ a.text.length) :
    (g.text.toList.take (g.attrAt pre + k)).count '"' =
      2 * pre.length + (a.text.toList.take k).count '"' := by
  rw [toList_text_of_eq h, attrAt, ← String.length_toList, List.take_length_add_append,
    List.flatMap_cons, List.append_assoc,
    List.take_append_of_le_length (by rwa [String.length_toList]), List.count_append, count_before]

theorem count_take_of_le_attrAt_nil {y : Nat} (hy : y ≤ g.attrAt []) :
    (g.text.toList.take y).count '"' = 0 := by
  rw [toList_text_of_eq (show g.attributes = [] ++ g.attributes from rfl),
    List.take_append_of_le_length (by rwa [String.length_toList])]
  have := (List.take_sublist y (g.before []).toList).count_le '"'
  rw [count_before, List.length_nil] at this
  omega

theorem count_take_closerAt_add (k : Nat) :
    (g.text.toList.take (g.closerAt + k)).count '"' = 2 * g.attributes.length := by
  have hq : '"' ∉ g.closer.toList := by rcases g.closer_cases with hc | hc <;> simp [hc]
  rw [toList_text_of_eq (show g.attributes = g.attributes ++ [] from (List.append_nil _).symm),
    closerAt, attrAt, ← String.length_toList, List.take_length_add_append, List.count_append,
    count_before]
  simp only [List.flatMap_nil, List.nil_append]
  rw [List.count_eq_zero.2 fun hm => hq (List.mem_of_mem_take hm), Nat.add_zero]

theorem attrAt_append (pre post : List TagAttribute) :
    g.attrAt (pre ++ post) = g.attrAt pre + (post.flatMap fun a => a.text.toList).length := by
  simp only [attrAt, ← String.length_toList, toList_before, List.flatMap_append, List.length_cons,
    List.length_append]
  omega

theorem attrAt_add_length_le (h : g.attributes = pre ++ a :: post) :
    g.attrAt pre + a.text.length ≤ g.closerAt := by
  rw [closerAt, h, attrAt_append, List.flatMap_cons, List.length_append, String.length_toList]
  omega

theorem attrAt_nil_le_closerAt : g.attrAt [] ≤ g.closerAt := by
  rw [closerAt, show g.attributes = [] ++ g.attributes from rfl, attrAt_append]
  omega

/-- **The attribute a position falls in.**  A position between the tag's name and its closer lies
in the text of one attribute. -/
theorem exists_attribute {y : Nat} (h₁ : g.attrAt [] ≤ y) (h₂ : y < g.closerAt) :
    ∃ pre a post, g.attributes = pre ++ a :: post ∧ g.attrAt pre ≤ y ∧
      y < g.attrAt pre + a.text.length := by
  suffices H : ∀ post pre, g.attributes = pre ++ post → g.attrAt pre ≤ y →
      ∃ pre a post, g.attributes = pre ++ a :: post ∧ g.attrAt pre ≤ y ∧
        y < g.attrAt pre + a.text.length from H g.attributes [] rfl h₁
  intro post
  induction post with
  | nil =>
    intro pre h hy
    rw [List.append_nil] at h
    rw [closerAt, h] at h₂
    omega
  | cons a post ih =>
    intro pre h hy
    by_cases hin : y < g.attrAt pre + a.text.length
    · exact ⟨pre, a, post, h, hy, hin⟩
    · exact ih (pre ++ [a]) (by rw [h, List.append_assoc, List.singleton_append])
        (by rw [attrAt_append_singleton]; omega)

/-- **What each position of the line holds**: the `<`; the tag's name, its first character starting
a name; a character of an attribute; a character of the closer. -/
theorem char_cases {y : Nat} {ch : Char} (h : g.text.toList[y]? = some ch) :
    (y = 0 ∧ ch = '<') ∨
    (0 < y ∧ y < g.attrAt [] ∧ isNameChar ch = true ∧ (y = 1 → isNameStart ch = true)) ∨
    (∃ pre a post k, g.attributes = pre ++ a :: post ∧ y = g.attrAt pre + k ∧ k < a.text.length ∧
      a.text.toList[k]? = some ch) ∨
    (g.closerAt ≤ y ∧ (ch = '>' ∨ ch = '/')) := by
  have hnil := attrAt_nil (g := g)
  rcases Nat.lt_or_ge y (g.attrAt []) with hy | hy
  · cases y with
    | zero => exact .inl ⟨rfl, by rw [getElem?_zero] at h; exact (Option.some.inj h).symm⟩
    | succ y =>
      rw [getElem?_name (by omega)] at h
      refine .inr (.inl ⟨Nat.succ_pos _, hy,
        isNameChar_of_mem_isName g.name_isName (List.mem_of_getElem? h), fun h1 => ?_⟩)
      obtain ⟨c, cs, hs, hc, -⟩ := isName_iff.1 g.name_isName
      rw [show y = 0 by omega, hs] at h
      simpa [← Option.some.inj h] using hc
  · rcases Nat.lt_or_ge y g.closerAt with hc | hc
    · obtain ⟨pre, a, post, hsplit, h₁, h₂⟩ := exists_attribute hy hc
      refine .inr (.inr (.inl ⟨pre, a, post, y - g.attrAt pre, hsplit, by omega, by omega, ?_⟩))
      rwa [← getElem?_attrAt_add hsplit (by omega), Nat.add_sub_cancel' h₁]
    · rw [show y = g.closerAt + (y - g.closerAt) by omega, getElem?_closerAt_add] at h
      exact .inr (.inr (.inr ⟨hc, closer_char h⟩))

open Subject

theorem size_chars : (ofString g.text).chars.size = g.closerAt + g.closer.length := by
  rw [size_chars_ofString, length_text]

theorem betweenQuotes_attrAt_add (h : g.attributes = pre ++ a :: post) {k : Nat}
    (hk : k ≤ a.text.length) :
    (ofString g.text).betweenQuotes ((ofString g.text).byteAt (g.attrAt pre + k)) =
      decide (a.openAt < k ∧ k ≤ a.closeAt) := by
  have hle := attrAt_add_length_le h
  rw [betweenQuotes_byteAt_count (by rw [size_chars]; omega), count_take_attrAt_add h hk,
    TagAttribute.count_take (by rwa [← TagAttribute.length_text])]
  have := TagAttribute.length_text (a := a)
  apply Bool.eq_iff_iff.2
  simp only [beq_iff_eq, decide_eq_true_eq]
  split_ifs with h₁ h₂ <;> omega

theorem betweenQuotes_of_le_attrAt_nil {y : Nat} (hy : y ≤ g.attrAt []) :
    (ofString g.text).betweenQuotes ((ofString g.text).byteAt y) = false := by
  have := attrAt_nil_le_closerAt (g := g)
  rw [betweenQuotes_byteAt_count (by rw [size_chars]; omega), count_take_of_le_attrAt_nil hy]
  rfl

theorem betweenQuotes_closerAt_add {k : Nat} (hk : k ≤ g.closer.length) :
    (ofString g.text).betweenQuotes ((ofString g.text).byteAt (g.closerAt + k)) = false := by
  rw [betweenQuotes_byteAt_count (by rw [size_chars]; omega), count_take_closerAt_add]
  simp

/-- **Outside quotes** the line holds the `<` it starts with; name characters, each the first of a
name or after another name character; spaces, `=` and opening quotes; and the closer. -/
theorem outside_cases {y : Nat} {ch : Char} (h : (ofString g.text).chars[y]? = some ch)
    (hout : (ofString g.text).betweenQuotes ((ofString g.text).byteAt y) = false) :
    (y = 0 ∧ ch = '<') ∨
    (0 < y ∧ y < g.closerAt ∧ isNameChar ch = true ∧
      (isNameStart ch = true ∨ ∃ c, (ofString g.text).chars[y - 1]? = some c ∧ isNameChar c = true)) ∨
    (0 < y ∧ y < g.closerAt ∧ (ch = ' ' ∨ ch = '=' ∨ ch = '"')) ∨
    (g.closerAt ≤ y ∧ (ch = '>' ∨ ch = '/')) := by
  rw [getElem?_chars_ofString] at h
  have hnil := attrAt_nil_le_closerAt (g := g)
  rcases char_cases h with h' | ⟨h₁, h₂, hc, hstart⟩ | ⟨pre, a, post, k, hsplit, rfl, hk, hch⟩ | h'
  · exact .inl h'
  · -- in the tag's name: the first character, or one after a character of the name
    refine .inr (.inl ⟨h₁, by omega, hc, ?_⟩)
    by_cases hy : y = 1
    · exact .inl (hstart hy)
    · have hlen : y - 2 < g.name.length := by rw [attrAt_nil] at h₂; omega
      have hlt : y - 2 < g.name.toList.length := by rwa [String.length_toList]
      refine .inr ⟨g.name.toList[y - 2], ?_,
        isNameChar_of_mem_isName g.name_isName (List.getElem_mem hlt)⟩
      rw [getElem?_chars_ofString, show y - 1 = y - 2 + 1 by omega, getElem?_name hlen,
        List.getElem?_eq_getElem hlt]
  · -- in an attribute, up to its opening quote
    have hle := attrAt_add_length_le hsplit
    have hpos : 0 < g.attrAt pre + k := by
      have := attrAt_nil (g := g)
      have : g.attrAt [] ≤ g.attrAt pre := by
        rw [show g.attrAt pre = g.attrAt ([] ++ pre) from rfl, attrAt_append]; omega
      omega
    have hopen : k ≤ a.openAt := by
      have := TagAttribute.length_text (a := a)
      rw [betweenQuotes_attrAt_add hsplit hk.le] at hout
      simp only [decide_eq_false_iff_not, not_and, Nat.not_le] at hout
      by_contra hgt
      have := hout (by omega)
      omega
    rcases TagAttribute.char_cases hch with ⟨-, rfl⟩ | ⟨hk₁, hk₂, hc, hstart⟩ | ⟨-, rfl⟩ | ⟨-, rfl⟩ |
      ⟨h₁, -⟩ | ⟨rfl, -⟩
    · exact .inr (.inr (.inl ⟨hpos, by omega, .inl rfl⟩))
    · refine .inr (.inl ⟨hpos, by omega, hc, ?_⟩)
      by_cases hk1 : k = 1
      · exact .inl (hstart hk1)
      · -- the character before is one of the name too
        have hlt : k - 1 < a.text.toList.length := by rw [String.length_toList]; omega
        have hc' := List.getElem?_eq_getElem hlt
        refine .inr ⟨a.text.toList[k - 1], ?_, ?_⟩
        · rw [getElem?_chars_ofString, show g.attrAt pre + k - 1 = g.attrAt pre + (k - 1) by omega,
            getElem?_attrAt_add hsplit (by omega), hc']
        · have heq : k - 1 < a.eqAt := by omega
          simp only [TagAttribute.eqAt] at heq
          rcases TagAttribute.char_cases hc' with ⟨h₃, -⟩ | ⟨-, -, hc'', -⟩ | ⟨h₃, -⟩ | ⟨h₃, -⟩ |
            ⟨h₃, -⟩ | ⟨h₃, -⟩
          · omega
          · exact hc''
          · simp only [TagAttribute.eqAt] at h₃
            omega
          · simp only [TagAttribute.openAt] at h₃
            omega
          · simp only [TagAttribute.openAt] at h₃
            omega
          · simp only [TagAttribute.closeAt] at h₃
            omega
    · exact .inr (.inr (.inl ⟨hpos, by omega, .inr (.inl rfl)⟩))
    · exact .inr (.inr (.inl ⟨hpos, by omega, .inr (.inr rfl)⟩))
    · omega
    · simp only [TagAttribute.openAt, TagAttribute.closeAt] at hopen
      omega
  · exact .inr (.inr (.inr h'))

/-- **Between quotes a closing quote follows**, before the closer. -/
theorem exists_quote_of_inside {y : Nat} (hy : y ≤ (ofString g.text).chars.size)
    (hin : (ofString g.text).betweenQuotes ((ofString g.text).byteAt y) = true) :
    ∃ q, y ≤ q ∧ q < g.closerAt ∧ (ofString g.text).chars[q]? = some '"' := by
  rcases Nat.lt_or_ge y (g.attrAt []) with h₁ | h₁
  · rw [betweenQuotes_of_le_attrAt_nil h₁.le] at hin
    cases hin
  rcases Nat.lt_or_ge y g.closerAt with h₂ | h₂
  · obtain ⟨pre, a, post, hsplit, h₃, h₄⟩ := exists_attribute h₁ h₂
    have hle := attrAt_add_length_le hsplit
    have hlen := TagAttribute.length_text (a := a)
    rw [show y = g.attrAt pre + (y - g.attrAt pre) by omega,
      betweenQuotes_attrAt_add hsplit (by omega)] at hin
    simp only [decide_eq_true_eq] at hin
    refine ⟨g.attrAt pre + a.closeAt, by omega, by omega, ?_⟩
    rw [getElem?_chars_ofString, getElem?_attrAt_add hsplit (by omega), TagAttribute.getElem?_closeAt]
  · rw [size_chars] at hy
    rw [show y = g.closerAt + (y - g.closerAt) by omega, betweenQuotes_closerAt_add (by omega)] at hin
    cases hin

theorem char_attrAt (h : g.attributes = pre ++ post) {ch : Char}
    (hch : (ofString g.text).chars[g.attrAt pre]? = some ch) : ch = ' ' ∨ ch = '>' ∨ ch = '/' := by
  rw [getElem?_chars_ofString] at hch
  cases post with
  | nil =>
    rw [List.append_nil] at h
    rw [show g.attrAt pre = g.closerAt + 0 by rw [closerAt, h]; rfl, getElem?_closerAt_add] at hch
    exact .inr (closer_char hch)
  | cons a post =>
    rw [← Nat.add_zero (g.attrAt pre), getElem?_attrAt_add h (by rw [TagAttribute.length_text]; omega),
      TagAttribute.toList_text] at hch
    exact .inl (Option.some.inj hch).symm

/-! ## Byte offsets -/

theorem closer_length_pos : 0 < g.closer.length := by
  rcases g.closer_cases with hc | hc <;> rw [hc] <;> decide

theorem text_eq_of_eq (h : g.attributes = pre ++ post) :
    g.text = g.before pre ++ (String.join (post.map TagAttribute.text) ++ g.closer) := by
  simp [text, before, h, String.append_assoc]

theorem byteAt_attrAt (h : g.attributes = pre ++ post) :
    (ofString g.text).byteAt (g.attrAt pre) = (g.before pre).utf8ByteSize := by
  rw [text_eq_of_eq h, attrAt]
  exact byteAt_prefix _ _

theorem byteAt_attrAt_add (h : g.attributes = pre ++ a :: post) {P Q : String}
    (hPQ : a.text = P ++ Q) :
    (ofString g.text).byteAt (g.attrAt pre + P.length) =
      (g.before pre).utf8ByteSize + P.utf8ByteSize := by
  rw [text_eq_of_eq h, List.map_cons, String.join_cons, hPQ, attrAt,
    show g.before pre ++ (P ++ Q ++ String.join (post.map TagAttribute.text) ++ g.closer) =
      (g.before pre ++ P) ++ (Q ++ String.join (post.map TagAttribute.text) ++ g.closer) by
      simp [String.append_assoc],
    ← String.length_append, byteAt_prefix, String.utf8ByteSize_append]

theorem byteAt_end : (ofString g.text).byteAt (g.closerAt + g.closer.length) = g.text.utf8ByteSize := by
  rw [← length_text, byteAt_ofString le_rfl, byteOffset_length]

end Tag

end Highlight
