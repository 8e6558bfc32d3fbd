import Highlight.Text.Subject

/-!
# Byte offsets of a prepared line

`Subject.ofString` lists the byte offset at which each character of a line starts, then the
line's length.  They are the running sums of the characters' UTF-8 sizes (`byteOffset`), so they
strictly increase: `Subject.byteAt` is strictly monotone up to the end of the line, the end is
the line's length in bytes, `Subject.charIndex` finds the character that starts at a character
boundary (`Subject.charIndex_byteAt`) and the first one at or after any offset
(`Subject.le_byteAt_charIndex`).  So the text between two boundaries can always be sliced out
(`Subject.isSome_slice?`), and every boundary is a valid position of the line
(`isValid_byteOffset`).
-/

namespace Highlight

/-- The byte offset at which character `i` of `cs` starts: the UTF-8 sizes of those before it. -/
def byteOffset (cs : List Char) (i : Nat) : Nat := (cs.take i).foldr (fun c n => c.utf8Size + n) 0

@[simp] theorem byteOffset_zero (cs : List Char) : byteOffset cs 0 = 0 := by
  simp [byteOffset]

@[simp] theorem byteOffset_cons_succ (c : Char) (cs : List Char) (i : Nat) :
    byteOffset (c :: cs) (i + 1) = c.utf8Size + byteOffset cs i := by
  simp [byteOffset]

theorem byteOffset_lt_byteOffset :
    ∀ {cs : List Char} {i j : Nat}, i < j → j ≤ cs.length → byteOffset cs i < byteOffset cs j
  | [], _, _, hij, hj => by simp at hj; omega
  | c :: cs, 0, j + 1, _, _ => by
    have := Char.utf8Size_pos c
    simp only [byteOffset_zero, byteOffset_cons_succ]
    omega
  | c :: cs, i + 1, j + 1, hij, hj => by
    simp only [byteOffset_cons_succ, List.length_cons] at hj ⊢
    have : byteOffset cs i < byteOffset cs j := byteOffset_lt_byteOffset (by omega) (by omega)
    omega

theorem byteOffset_le_byteOffset {cs : List Char} {i j : Nat} (hij : i ≤ j) (hj : j ≤ cs.length) :
    byteOffset cs i ≤ byteOffset cs j := by
  rcases Nat.lt_or_eq_of_le hij with h | rfl
  · exact Nat.le_of_lt (byteOffset_lt_byteOffset h hj)
  · exact Nat.le_refl _

theorem byteOffset_length (s : String) : byteOffset s.toList s.toList.length = s.utf8ByteSize := by
  rw [byteOffset, List.take_length, ← String.size_toByteArray, ← String.utf8Encode_toList]
  generalize s.toList = l
  induction l with
  | nil => simp
  | cons c l ih =>
    rw [List.utf8Encode_cons, ByteArray.size_append, ← ih, List.utf8Encode_singleton]
    simp

theorem byteOffset_take (l : List Char) (i : Nat) : byteOffset (l.take i) i = byteOffset l i := by
  simp [byteOffset, List.take_take]

theorem isValid_byteOffset (text : String) {i : Nat} (hi : i ≤ text.toList.length) :
    String.Pos.Raw.IsValid text ⟨byteOffset text.toList i⟩ := by
  rw [String.Pos.Raw.isValid_iff_exists_append]
  refine ⟨String.ofList (text.toList.take i), String.ofList (text.toList.drop i), ?_, ?_⟩
  · rw [← String.toList_inj, String.toList_append, String.toList_ofList, String.toList_ofList,
      List.take_append_drop]
  · have h := byteOffset_length (String.ofList (text.toList.take i))
    rw [String.toList_ofList, List.length_take, Nat.min_eq_left hi, byteOffset_take] at h
    rw [h]
    rfl

namespace Subject

theorem foldl_offsets (l : List Char) (acc : Array Nat) (t : Nat) :
    let r := l.foldl (fun (a : Array Nat × Nat) c => (a.1.push a.2, a.2 + c.utf8Size)) (acc, t)
    r.1.toList = acc.toList ++ (List.range l.length).map (fun i => t + byteOffset l i) ∧
      r.2 = t + byteOffset l l.length := by
  induction l generalizing acc t with
  | nil => simp
  | cons c l ih =>
    obtain ⟨h₁, h₂⟩ := ih (acc.push t) (t + c.utf8Size)
    simp only [List.foldl_cons]
    refine ⟨?_, by rw [h₂]; simp; omega⟩
    rw [h₁, List.length_cons, List.range_succ_eq_map]
    simp [Nat.add_assoc]

theorem toList_offsets_ofString (s : String) :
    (ofString s).offsets.toList = (List.range (s.toList.length + 1)).map (byteOffset s.toList) := by
  obtain ⟨h₁, h₂⟩ := foldl_offsets s.toList #[] 0
  simp only [ofString, String.foldl_eq_foldl_toList]
  rw [Array.toList_push, h₁, h₂, List.range_succ]
  simp

@[simp] theorem size_chars_ofString (s : String) : (ofString s).chars.size = s.toList.length := by
  simp [ofString]

theorem getElem?_offsets_ofString {s : String} {i : Nat} (hi : i ≤ s.toList.length) :
    (ofString s).offsets[i]? = some (byteOffset s.toList i) := by
  rw [← Array.getElem?_toList, toList_offsets_ofString, List.getElem?_map,
    List.getElem?_range (by omega)]
  rfl

theorem getD_offsets_ofString {s : String} {i : Nat} (hi : i ≤ s.toList.length) (d : Nat) :
    (ofString s).offsets.getD i d = byteOffset s.toList i := by
  simp [Array.getD_eq_getD_getElem?, getElem?_offsets_ofString hi]

@[simp] theorem byteLength_ofString (s : String) : (ofString s).byteLength = s.utf8ByteSize := by
  rw [byteLength, size_chars_ofString, getD_offsets_ofString (Nat.le_refl _), byteOffset_length]

theorem byteAt_ofString {s : String} {i : Nat} (hi : i ≤ s.toList.length) :
    (ofString s).byteAt i = byteOffset s.toList i :=
  getD_offsets_ofString hi _

theorem byteAt_lt_byteAt {s : String} {i j : Nat} (hij : i < j) (hj : j ≤ (ofString s).chars.size) :
    (ofString s).byteAt i < (ofString s).byteAt j := by
  simp only [size_chars_ofString] at hj
  rw [byteAt_ofString (by omega), byteAt_ofString hj]
  exact byteOffset_lt_byteOffset hij hj

theorem byteAt_le_byteAt {s : String} {i j : Nat} (hij : i ≤ j) (hj : j ≤ (ofString s).chars.size) :
    (ofString s).byteAt i ≤ (ofString s).byteAt j := by
  simp only [size_chars_ofString] at hj
  rw [byteAt_ofString (by omega), byteAt_ofString hj]
  exact byteOffset_le_byteOffset hij hj

theorem byteAt_le_byteLength {s : String} {i : Nat} (hi : i ≤ (ofString s).chars.size) :
    (ofString s).byteAt i ≤ s.utf8ByteSize := by
  simp only [size_chars_ofString] at hi
  rw [byteAt_ofString hi, ← byteOffset_length]
  exact byteOffset_le_byteOffset hi (Nat.le_refl _)

theorem charIndex_go_spec (s : Subject) (b : Nat)
    (hmono : ∀ i j, i ≤ j → j < s.chars.size → s.offsets.getD i 0 ≤ s.offsets.getD j 0)
    (lo hi : Nat) (hlo : lo ≤ hi) (hhi : hi ≤ s.chars.size) :
    lo ≤ charIndex.go s b lo hi ∧ charIndex.go s b lo hi ≤ hi ∧
      (∀ k, lo ≤ k → k < charIndex.go s b lo hi → s.offsets.getD k 0 < b) ∧
      (charIndex.go s b lo hi < hi → b ≤ s.offsets.getD (charIndex.go s b lo hi) 0) := by
  fun_induction charIndex.go s b lo hi with
  | case1 lo hi hlt mid hmid ih =>
    -- every offset up to `mid` is below `b`, so the answer lies after it
    obtain ⟨h₁, h₂, h₃, h₄⟩ := ih (by omega) hhi
    refine ⟨by omega, h₂, fun k hk hkr => ?_, h₄⟩
    by_cases hkm : k ≤ mid
    · exact Nat.lt_of_le_of_lt (hmono k mid hkm (by omega)) hmid
    · exact h₃ k (by omega) hkr
  | case2 lo hi hlt mid hmid ih =>
    obtain ⟨h₁, h₂, h₃, h₄⟩ := ih (by omega) (by omega)
    refine ⟨h₁, by omega, h₃, fun _ => ?_⟩
    rcases Nat.lt_or_eq_of_le h₂ with h | h
    · exact h₄ h
    · rw [h]
      omega
  | case3 lo hi hge => exact ⟨Nat.le_refl _, hlo, fun k hk hkr => by omega, fun h => by omega⟩

theorem charIndex_spec_ofString (s : String) (b : Nat) :
    (ofString s).charIndex b ≤ (ofString s).chars.size ∧
      (∀ k < (ofString s).charIndex b, (ofString s).byteAt k < b) ∧
      ((ofString s).charIndex b < (ofString s).chars.size →
        b ≤ (ofString s).byteAt ((ofString s).charIndex b)) := by
  have hmono : ∀ i j, i ≤ j → j < (ofString s).chars.size →
      (ofString s).offsets.getD i 0 ≤ (ofString s).offsets.getD j 0 := by
    intro i j hij hj
    simp only [size_chars_ofString] at hj
    rw [getD_offsets_ofString (by omega), getD_offsets_ofString (by omega)]
    exact byteOffset_le_byteOffset hij (by omega)
  obtain ⟨-, h₂, h₃, h₄⟩ := charIndex_go_spec (ofString s) b hmono 0 _ (Nat.zero_le _)
    (Nat.le_refl _)
  have hsize := size_chars_ofString s
  have hat : ∀ k ≤ (ofString s).chars.size,
      (ofString s).byteAt k = (ofString s).offsets.getD k 0 := fun k hk => by
    rw [byteAt, getD_offsets_ofString (by omega), getD_offsets_ofString (by omega)]
  refine ⟨h₂, fun k hk => ?_, fun h => ?_⟩
  · rw [hat k (by unfold charIndex at hk; omega)]
    exact h₃ k (Nat.zero_le _) hk
  · show b ≤ (ofString s).byteAt (charIndex.go (ofString s) b 0 (ofString s).chars.size)
    rw [hat _ h₂]
    exact h₄ h

theorem le_byteAt_charIndex {s : String} {b : Nat} (hb : b ≤ s.utf8ByteSize) :
    b ≤ (ofString s).byteAt ((ofString s).charIndex b) := by
  obtain ⟨h₁, -, h₃⟩ := charIndex_spec_ofString s b
  rcases Nat.lt_or_eq_of_le h₁ with h | h
  · exact h₃ h
  · rw [h, size_chars_ofString, byteAt_ofString (Nat.le_refl _), byteOffset_length]
    exact hb

/-- **`charIndex` inverts `byteAt`** at every character boundary. -/
theorem charIndex_byteAt {s : String} {i : Nat} (hi : i ≤ (ofString s).chars.size) :
    (ofString s).charIndex ((ofString s).byteAt i) = i := by
  obtain ⟨h₁, h₂, h₃⟩ := charIndex_spec_ofString s ((ofString s).byteAt i)
  rcases Nat.lt_trichotomy ((ofString s).charIndex ((ofString s).byteAt i)) i with h | h | h
  · have := h₃ (by omega)
    have := byteAt_lt_byteAt h hi
    omega
  · exact h
  · have := h₂ i h
    omega

theorem isSome_slice? {s : String} {i j : Nat} (hij : i ≤ j) (hj : j ≤ (ofString s).chars.size) :
    ((ofString s).slice? ((ofString s).byteAt i) ((ofString s).byteAt j)).isSome := by
  have hle := byteAt_le_byteAt hij hj
  have hend := byteAt_le_byteLength hj
  simp [slice?, charIndex_byteAt (Nat.le_trans hij hj), charIndex_byteAt hj, hle, hend]

theorem lt_of_byteAt_lt {s : String} {i j : Nat} (hi : i ≤ (ofString s).chars.size)
    (h : (ofString s).byteAt i < (ofString s).byteAt j) : i < j := by
  rcases Nat.lt_or_ge i j with hij | hji
  · exact hij
  · exact absurd h (Nat.not_lt.2 (byteAt_le_byteAt hji hi))

theorem byteLength_eq_byteAt (text : String) :
    (ofString text).byteLength = (ofString text).byteAt (ofString text).chars.size := by
  rw [byteLength_ofString, byteAt_ofString (by simp), size_chars_ofString, byteOffset_length]

theorem byteAt_zero (text : String) : (ofString text).byteAt 0 = 0 := by
  rw [byteAt_ofString (Nat.zero_le _), byteOffset_zero]

end Subject

end Highlight
