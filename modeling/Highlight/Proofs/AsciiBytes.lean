import Highlight.Proofs.QuoteAware

/-!
# ASCII bytes of a line

A character beyond ASCII is encoded in bytes that all have their top bit set, so a byte below
`128` in the encoding of a text is always a whole character, standing at that character's offset
(`getElem?_flatMap_ascii`).  This turns statements about bytes, such as "byte `p` is `-` and the
byte before it is not", into statements about characters.
-/

namespace Highlight

theorem ofNat_toNat_inj {c d : Char} (hc : c.toNat < 128) (hd : d.toNat < 128) :
    UInt8.ofNat d.toNat = UInt8.ofNat c.toNat ↔ d = c := by
  constructor
  · intro h
    have h' := congrArg UInt8.toNat h
    rw [UInt8.toNat_ofNat', UInt8.toNat_ofNat', Nat.mod_eq_of_lt (by omega),
      Nat.mod_eq_of_lt (by omega)] at h'
    exact Char.ext (UInt32.toNat_inj.1 (by rw [Char.toNat_val, Char.toNat_val]; exact h'))
  · rintro rfl
    rfl

/-- **An ASCII byte is a whole character.**  In the encoding of a list of characters, the byte of
an ASCII character `c` stands exactly at the offsets of the occurrences of `c`. -/
theorem getElem?_flatMap_ascii {c : Char} (hc : c.toNat < 128) :
    ∀ (l : List Char) (p : Nat), (l.flatMap String.utf8EncodeChar)[p]? = some (UInt8.ofNat c.toNat) ↔
      ∃ j, p = byteOffset l j ∧ l[j]? = some c
  | [], p => by simp
  | d :: l, p => by
    have hsize := Char.utf8Size_pos d
    have hlen : (String.utf8EncodeChar d).length = d.utf8Size := String.length_utf8EncodeChar d
    have hrhs : (∃ j, p = byteOffset (d :: l) j ∧ (d :: l)[j]? = some c) ↔
        (p = 0 ∧ d = c) ∨ ∃ j, p = d.utf8Size + byteOffset l j ∧ l[j]? = some c := by
      constructor
      · rintro ⟨j, hp, hj⟩
        cases j with
        | zero => exact .inl ⟨by simpa using hp, by simpa using hj⟩
        | succ j => exact .inr ⟨j, by simpa using hp, by simpa using hj⟩
      · rintro (⟨rfl, rfl⟩ | ⟨j, hp, hj⟩)
        · exact ⟨0, by simp, by simp⟩
        · exact ⟨j + 1, by simpa using hp, by simpa using hj⟩
    rw [hrhs, List.flatMap_cons]
    by_cases hp : p < (String.utf8EncodeChar d).length
    · rw [List.getElem?_append_left hp]
      by_cases hd : d.toNat < 128
      · -- a one-byte character: the byte is `c` exactly when the character is
        rw [utf8EncodeChar_of_lt hd] at hp ⊢
        have hp0 : p = 0 := by simpa using hp
        subst hp0
        simp only [List.getElem?_cons_zero, Option.some.injEq, ofNat_toNat_inj hc hd, true_and]
        constructor
        · exact .inl
        · rintro (h | ⟨j, hj, -⟩)
          · exact h
          · omega
      · -- a longer character: none of its bytes is ASCII
        constructor
        · intro h
          have hb := le_toNat_of_mem_utf8EncodeChar (by omega) (List.mem_of_getElem? h)
          rw [UInt8.toNat_ofNat', Nat.mod_eq_of_lt (by omega)] at hb
          omega
        · rintro (⟨-, rfl⟩ | ⟨j, hj, -⟩)
          · exact absurd hc hd
          · omega
    · rw [List.getElem?_append_right (by omega), getElem?_flatMap_ascii hc l]
      constructor
      · rintro ⟨j, hj, hlj⟩
        exact .inr ⟨j, by omega, hlj⟩
      · rintro (⟨rfl, -⟩ | ⟨j, hj, hlj⟩)
        · omega
        · exact ⟨j, by omega, hlj⟩

theorem byteOffset_succ : ∀ (l : List Char) (j : Nat) (hj : j < l.length),
    byteOffset l (j + 1) = byteOffset l j + l[j].utf8Size
  | [], _, hj => by simp at hj
  | c :: l, 0, _ => by simp
  | c :: l, j + 1, hj => by
    rw [byteOffset_cons_succ, byteOffset_cons_succ, byteOffset_succ l j (by simpa using hj)]
    simp only [List.getElem_cons_succ]
    omega

theorem byteOffset_inj {l : List Char} {i j : Nat} (hi : i ≤ l.length) (hj : j ≤ l.length)
    (h : byteOffset l i = byteOffset l j) : i = j := by
  rcases Nat.lt_trichotomy i j with hij | rfl | hij
  · exact absurd h (Nat.ne_of_lt (byteOffset_lt_byteOffset hij hj))
  · rfl
  · exact absurd h (Nat.ne_of_gt (byteOffset_lt_byteOffset hij hi))

end Highlight
