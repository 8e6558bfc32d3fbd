import Mathlib
import Highlight.Regex.CharClass

/-!
# Searching the ranges of a class

`CharClass.searchRanges` looks a code point up among a class's ranges by binary search.  On
ranges that are in order and apart (`CharClass.Ordered`), the form every class is kept in, the
search answers whether one of the ranges holds the code point (`CharClass.searchRanges_eq_any`):
a range after the middle one starts beyond it and a range before it ends below it, so the half
left out holds nothing.
-/

namespace Highlight.Regex.CharClass

/-- Ranges whose ends are in order, each range ending below the start of every later one. -/
def Ordered (rs : Array (Nat × Nat)) : Prop :=
  (∀ i (h : i < rs.size), rs[i].1 ≤ rs[i].2) ∧
    ∀ j (hj : j < rs.size), ∀ i (hij : i < j), rs[i].2 < rs[j].1

instance (rs : Array (Nat × Nat)) : Decidable (Ordered rs) :=
  inferInstanceAs (Decidable ((∀ i (h : i < rs.size), rs[i].1 ≤ rs[i].2) ∧
    ∀ j (hj : j < rs.size), ∀ i (hij : i < j), rs[i].2 < rs[j].1))

theorem searchRanges_go_iff {rs : Array (Nat × Nat)} (h : Ordered rs) (c lo hi : Nat)
    (hhi : hi ≤ rs.size) (hbelow : ∀ i (hi : i < rs.size), i < lo → rs[i].2 < c)
    (habove : ∀ j (hj : j < rs.size), hi ≤ j → c < rs[j].1) :
    searchRanges.go rs c lo hi = true ↔ ∃ i, ∃ h : i < rs.size, rs[i].1 ≤ c ∧ c ≤ rs[i].2 := by
  fun_induction searchRanges.go rs c lo hi with
  | case1 lo hi hlt mid r hc ih =>
    have hmid : mid < rs.size := by omega
    have hr : r = rs[mid] := by simp [r, Array.getD_eq_getD_getElem?, hmid]
    refine ih (by omega) hbelow fun j hj hmj => ?_
    rcases Nat.lt_or_ge mid j with hlt' | hle
    · have := h.2 j hj mid hlt'
      have := h.1 mid hmid
      rw [hr] at hc
      omega
    · have hjm : j = mid := by omega
      subst hjm
      rw [← hr]
      exact hc
  | case2 lo hi hlt mid r hc hc' ih =>
    have hmid : mid < rs.size := by omega
    have hr : r = rs[mid] := by simp [r, Array.getD_eq_getD_getElem?, hmid]
    refine ih hhi (fun i hi hil => ?_) habove
    rcases Nat.lt_or_ge i mid with hlt' | hle
    · have := h.2 mid hmid i hlt'
      have := h.1 mid hmid
      rw [hr] at hc'
      omega
    · have him : i = mid := by omega
      subst him
      rw [← hr]
      exact hc'
  | case3 lo hi hlt mid r hc hc' =>
    have hmid : mid < rs.size := by omega
    have hr : r = rs[mid] := by simp [r, Array.getD_eq_getD_getElem?, hmid]
    rw [hr] at hc hc'
    exact ⟨fun _ => ⟨mid, hmid, by omega, by omega⟩, fun _ => rfl⟩
  | case4 lo hi hge =>
    refine ⟨fun h => absurd h (by simp), fun ⟨i, hi, h₁, h₂⟩ => ?_⟩
    rcases Nat.lt_or_ge i lo with hil | hil
    · have := hbelow i hi hil
      omega
    · have := habove i hi (by omega)
      omega

/-- **The binary search answers membership** in ordered ranges. -/
theorem searchRanges_eq_any {rs : Array (Nat × Nat)} (h : Ordered rs) (c : Nat) :
    searchRanges rs c = rs.toList.any fun r => decide (r.1 ≤ c ∧ c ≤ r.2) := by
  have hgo := searchRanges_go_iff h c 0 rs.size le_rfl (fun _ _ h => absurd h (by omega))
    (fun _ hj h => absurd hj (by omega))
  apply Bool.eq_iff_iff.2
  rw [searchRanges, hgo, List.any_eq_true]
  constructor
  · rintro ⟨i, hi, h₁, h₂⟩
    exact ⟨rs[i], Array.getElem_mem_toList hi, by simp [h₁, h₂]⟩
  · rintro ⟨r, hr, hc⟩
    obtain ⟨i, hi, rfl⟩ := List.getElem_of_mem hr
    simp only [decide_eq_true_eq] at hc
    exact ⟨i, by simpa using hi, by simpa using hc⟩

end Highlight.Regex.CharClass
