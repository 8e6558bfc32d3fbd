import Mathlib
import Highlight.Regex.Search

/-!
# The set of visited pairs

The search keeps the pairs of instruction and position it has explored in a bit set
(`Visited`): pair `(pc, pos)` is bit `(pos - origin) * insts + pc`, bit `i % 8` of byte `i / 8`,
and the bytes grow on demand, at least doubling.  Here the bits are read back as a set:

* `Visited.contains_insert`: for pairs within the program's instructions and at or after the
  origin, inserting a pair adds exactly that pair (two such pairs never share a bit,
  `Visited.index_inj`);
* `Visited.contains_empty`: the empty set holds nothing;
* `Visited.free_insert`: inserting a pair the set did not hold leaves one pair fewer to visit
  (`Visited.free`), which bounds the steps a search can take.
-/

namespace Highlight.Regex.Visited

/-- The byte `k` of a byte array, `0` beyond its end. -/
def byteOf (b : ByteArray) (k : Nat) : UInt8 := b.data.getD k 0

theorem bit_eq_testBit (b : UInt8) {j : Nat} (hj : j < 8) :
    ((b >>> j.toUInt8) &&& 1 == 1) = b.toNat.testBit j := by
  have hj' : j.toUInt8.toNat = j := by
    simp [Nat.toUInt8]
    omega
  have h : ((b >>> j.toUInt8) &&& 1).toNat = b.toNat >>> j % 2 := by
    rw [UInt8.toNat_and, UInt8.toNat_shiftRight, hj', Nat.mod_eq_of_lt hj]
    simp [Nat.and_one_is_mod]
  rw [Nat.testBit, Nat.and_comm, Nat.and_one_is_mod]
  by_cases hb : b.toNat >>> j % 2 = 1
  · have : (b >>> j.toUInt8) &&& 1 = 1 := UInt8.toNat_inj.1 (by rw [h, hb]; rfl)
    simp [this, hb]
  · have : (b >>> j.toUInt8) &&& 1 ≠ 1 := fun h' => hb (by rw [← h, h']; rfl)
    simp [this, show b.toNat >>> j % 2 = 0 by omega]

theorem contains_eq (v : Visited) (pc pos : Nat) :
    v.contains pc pos = (byteOf v.bits (v.index pc pos / 8)).toNat.testBit (v.index pc pos % 8) := by
  by_cases h : v.index pc pos / 8 < v.bits.size
  · simp only [contains, dif_pos h]
    rw [bit_eq_testBit _ (Nat.mod_lt _ (by norm_num))]
    simp [byteOf, Array.getD_eq_getD_getElem?, Array.getElem?_eq_getElem (show v.index pc pos / 8 < v.bits.data.size from h)]
    rfl
  · simp only [contains, dif_neg h, byteOf]
    rw [Array.getD_eq_getD_getElem?, Array.getElem?_eq_none (by simpa using Nat.le_of_not_lt h)]
    simp

theorem size_mk (a : Array UInt8) : (ByteArray.mk a).size = a.size := rfl

/-- The bits that `insert` writes into: the set's bits, grown with zero bytes when the pair lies
beyond them. -/
def grown (v : Visited) (i : Nat) : ByteArray :=
  if i / 8 < v.bits.size then v.bits
  else v.bits ++ ByteArray.mk (Array.replicate (max (i / 8 + 1 - v.bits.size) v.bits.size) 0)

theorem lt_size_grown (v : Visited) (i : Nat) : i / 8 < (grown v i).size := by
  unfold grown
  split
  · assumption
  · rw [ByteArray.size_append, size_mk (Array.replicate _ _), Array.size_replicate]
    omega

theorem byteOf_grown (v : Visited) (i k : Nat) : byteOf (grown v i) k = byteOf v.bits k := by
  unfold grown
  split
  · rfl
  · simp only [byteOf, ByteArray.data_append, Array.getD_eq_getD_getElem?, Array.getElem?_append]
    split
    · rfl
    · rename_i hk
      rw [Array.getElem?_eq_none (Nat.le_of_not_lt hk)]
      simp [Array.getElem?_replicate]
      split <;> rfl

theorem byteOf_set (b : ByteArray) {m : Nat} (hm : m < b.size) (x : UInt8) (k : Nat) :
    byteOf (b.set m x hm) k = if k = m then x else byteOf b k := by
  simp only [byteOf, ByteArray.data_set, Array.getD_eq_getD_getElem?, Array.getElem?_set]
  split
  · rename_i h
    subst h
    simp
  · rename_i h
    rw [if_neg (Ne.symm h)]

/-- The bits with bit `i` set, grown first when needed. -/
def marked (v : Visited) (i : Nat) : ByteArray :=
  (grown v i).set (i / 8) ((grown v i).get (i / 8) (lt_size_grown v i) ||| (1 <<< (i % 8).toUInt8))
    (lt_size_grown v i)

theorem insert_eq (v : Visited) (pc pos : Nat) :
    v.insert pc pos = { v with bits := marked v (v.index pc pos) } := by
  show (if h : _ / 8 < (grown v (v.index pc pos)).size then _ else _) = _
  rw [dif_pos (lt_size_grown v _)]
  rfl

@[simp] theorem insts_insert (v : Visited) (pc pos : Nat) : (v.insert pc pos).insts = v.insts := by
  rw [insert_eq]

@[simp] theorem origin_insert (v : Visited) (pc pos : Nat) : (v.insert pc pos).origin = v.origin := by
  rw [insert_eq]

theorem index_insert (v : Visited) (pc pos pc' pos' : Nat) :
    (v.insert pc pos).index pc' pos' = v.index pc' pos' := by
  simp [index]

theorem toNat_or_shiftLeft (b : UInt8) {k : Nat} (hk : k < 8) :
    (b ||| (1 <<< k.toUInt8)).toNat = b.toNat ||| 2 ^ k := by
  have hk' : k.toUInt8.toNat = k := by
    simp [Nat.toUInt8]
    omega
  rw [UInt8.toNat_or, UInt8.toNat_shiftLeft, hk', Nat.mod_eq_of_lt hk, UInt8.toNat_one,
    Nat.one_shiftLeft, Nat.mod_eq_of_lt (Nat.pow_lt_pow_right (by norm_num) hk)]

theorem testBit_insert (v : Visited) (pc pos j : Nat) :
    (byteOf (v.insert pc pos).bits (j / 8)).toNat.testBit (j % 8) =
      (j == v.index pc pos || (byteOf v.bits (j / 8)).toNat.testBit (j % 8)) := by
  have hmod : v.index pc pos % 8 < 8 := Nat.mod_lt _ (by norm_num)
  have hget : (grown v (v.index pc pos)).get (v.index pc pos / 8) (lt_size_grown v _) =
      byteOf v.bits (v.index pc pos / 8) := by
    rw [← byteOf_grown v (v.index pc pos)]
    simp [byteOf, Array.getD_eq_getD_getElem?,
      Array.getElem?_eq_getElem (show v.index pc pos / 8 < (grown v (v.index pc pos)).data.size from
        lt_size_grown v _)]
    rfl
  rw [insert_eq]
  simp only [marked]
  rw [byteOf_set, byteOf_grown]
  split
  · rename_i hbyte
    rw [hget, ← hbyte, toNat_or_shiftLeft _ hmod, Nat.testBit_or, Nat.testBit_two_pow]
    by_cases hj : j = v.index pc pos
    · simp [hj]
    · have : v.index pc pos % 8 ≠ j % 8 := by omega
      simp [hj, this]
  · rename_i hbyte
    have : j ≠ v.index pc pos := fun h => hbyte (by rw [h])
    simp [this]

theorem index_inj {v : Visited} {pc pos pc' pos' : Nat} (hpc : pc < v.insts) (hpc' : pc' < v.insts)
    (hpos : v.origin ≤ pos) (hpos' : v.origin ≤ pos') (h : v.index pc' pos' = v.index pc pos) :
    pc' = pc ∧ pos' = pos := by
  unfold index at h
  have hmod := congrArg (· % v.insts) h
  have hdiv := congrArg (· / v.insts) h
  have hn : 0 < v.insts := by omega
  simp only [Nat.add_comm _ pc, Nat.add_comm _ pc', Nat.add_mul_mod_self_right,
    Nat.mod_eq_of_lt hpc, Nat.mod_eq_of_lt hpc', Nat.add_mul_div_right _ _ hn,
    Nat.div_eq_of_lt hpc, Nat.div_eq_of_lt hpc'] at hmod hdiv
  omega

/-- **What `insert` adds.** For pairs within the set's instructions and at or after its origin,
the set after inserting one pair holds that pair and what it held before. -/
theorem contains_insert {v : Visited} {pc pos pc' pos' : Nat} (hpc : pc < v.insts)
    (hpc' : pc' < v.insts) (hpos : v.origin ≤ pos) (hpos' : v.origin ≤ pos') :
    (v.insert pc pos).contains pc' pos' = ((pc' == pc && pos' == pos) || v.contains pc' pos') := by
  rw [contains_eq, index_insert, testBit_insert, ← contains_eq]
  congr 1
  by_cases h : v.index pc' pos' = v.index pc pos
  · obtain ⟨rfl, rfl⟩ := index_inj hpc hpc' hpos hpos' h
    simp
  · have : ¬(pc' = pc ∧ pos' = pos) := fun ⟨h₁, h₂⟩ => h (by rw [h₁, h₂])
    simp only [beq_eq_false_iff_ne.2 h, Bool.false_eq, Bool.and_eq_false_iff, beq_eq_false_iff_ne]
    tauto

@[simp] theorem contains_empty (n o pc pos : Nat) : (empty n o).contains pc pos = false := by
  rw [contains_eq]
  simp [empty, byteOf]

/-- The pairs of the set's instructions and of the positions from its origin up to `last` that
it does not hold: what a search may still visit. -/
def free (v : Visited) (last : Nat) : Nat :=
  ((Finset.range v.insts ×ˢ Finset.Icc v.origin last).filter fun x => v.contains x.1 x.2 = false).card

theorem free_le (v : Visited) (last : Nat) : v.free last ≤ v.insts * (last + 1 - v.origin) := by
  unfold free
  refine (Finset.card_filter_le _ _).trans ?_
  rw [Finset.card_product, Finset.card_range, Nat.card_Icc]

theorem free_insert {v : Visited} {pc pos last : Nat} (hpc : pc < v.insts) (hpos : v.origin ≤ pos)
    (hlast : pos ≤ last) (hnot : v.contains pc pos = false) :
    v.free last = (v.insert pc pos).free last + 1 := by
  unfold free
  rw [insts_insert, origin_insert]
  have hset : ((Finset.range v.insts ×ˢ Finset.Icc v.origin last).filter
        fun x => (v.insert pc pos).contains x.1 x.2 = false) =
      ((Finset.range v.insts ×ˢ Finset.Icc v.origin last).filter
        fun x => v.contains x.1 x.2 = false).erase (pc, pos) := by
    ext ⟨a, b⟩
    simp only [Finset.mem_filter, Finset.mem_product, Finset.mem_range, Finset.mem_Icc,
      Finset.mem_erase, ne_eq, Prod.mk.injEq]
    constructor
    · rintro ⟨⟨ha, hb⟩, hc⟩
      rw [contains_insert hpc ha hpos hb.1] at hc
      simp only [Bool.or_eq_false_iff, Bool.and_eq_false_iff, beq_eq_false_iff_ne] at hc
      refine ⟨fun ⟨h₁, h₂⟩ => ?_, ⟨ha, hb⟩, hc.2⟩
      rcases hc.1 with h | h <;> contradiction
    · rintro ⟨hne, ⟨ha, hb⟩, hc⟩
      refine ⟨⟨ha, hb⟩, ?_⟩
      rw [contains_insert hpc ha hpos hb.1, hc]
      simp only [Bool.or_false, Bool.and_eq_false_iff, beq_eq_false_iff_ne]
      by_cases h : a = pc
      · exact .inr fun h' => hne ⟨h, h'⟩
      · exact .inl h
  rw [hset, Finset.card_erase_of_mem]
  · have : 0 < ((Finset.range v.insts ×ˢ Finset.Icc v.origin last).filter
        fun x => v.contains x.1 x.2 = false).card :=
      Finset.card_pos.2 ⟨(pc, pos), by simp [hpc, hpos, hlast, hnot]⟩
    omega
  · simp [hpc, hpos, hlast, hnot]

end Highlight.Regex.Visited
