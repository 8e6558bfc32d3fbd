import Mathlib.Data.List.Induction
import Highlight.Span

/-!
# Painting spans: the last span wins

`flatten` gives each byte of a line the style of the spans over it, painting the spans in list
order.  It clamps each span to the bytes from `min start stop'` to `stop'`, where `stop'` is the
span's end cut to the line, so the range it paints always lies inside the line, whatever the span:
ends swapped, past the end of the line, or empty.  Inside the line that range holds exactly the
bytes the span covers by its own ends (`clamped_iff_covers`), so the clamping is invisible.

Main statement (`flatten_eq_lastStyleAt`): `flatten` answers one entry per byte of the line, and
entry `i` is the style of the last span in the list with `start ≤ i < stop`, or none when no span
covers byte `i`.
-/

namespace Highlight

namespace Span

/-- Whether the span covers byte `i` by its own ends: `start ≤ i < stop`. -/
def covers (sp : Span) (i : Nat) : Bool := decide (sp.start ≤ i ∧ i < sp.stop)

theorem clamped_iff_covers (sp : Span) {n i : Nat} (hi : i < n) :
    (min sp.start (min sp.stop n) ≤ i ∧ i < min sp.stop n) ↔ sp.covers i = true := by
  simp only [covers, decide_eq_true_eq]
  omega

end Span

/-- The style painting `spans` in order leaves on byte `i`: that of the last span that covers
it, if any. -/
def lastStyleAt (spans : List Span) (i : Nat) : Option Style :=
  ((spans.filter (·.covers i)).getLast?).map (·.style)

@[simp] theorem lastStyleAt_nil (i : Nat) : lastStyleAt [] i = none := rfl

theorem lastStyleAt_append_singleton (spans : List Span) (sp : Span) (i : Nat) :
    lastStyleAt (spans ++ [sp]) i =
      if sp.covers i then some sp.style else lastStyleAt spans i := by
  unfold lastStyleAt
  by_cases h : sp.covers i <;> simp [List.filter_append, h]

theorem getElem?_foldl_setIfInBounds {α : Type} (v : α) (i : Nat) :
    ∀ (is : List Nat) (acc : Array α),
      (is.foldl (fun acc j => acc.setIfInBounds j v) acc)[i]? =
        if i ∈ is ∧ i < acc.size then some v else acc[i]?
  | [], acc => by simp
  | j :: rest, acc => by
    rw [List.foldl_cons, getElem?_foldl_setIfInBounds v i rest, Array.size_setIfInBounds,
      Array.getElem?_setIfInBounds]
    by_cases hj : j = i
    · subst hj
      by_cases hsize : j < acc.size <;> simp [hsize]
    · simp [hj, Ne.symm hj]

theorem getElem?_paintRange (acc : Array (Option Style)) (a b : Nat) (st : Style) (i : Nat) :
    (paintRange acc a b st)[i]? =
      if (a ≤ i ∧ i < b) ∧ i < acc.size then some (some st) else acc[i]? := by
  unfold paintRange
  have hrange : (a ≤ i ∧ i < a + (b - a)) ↔ (a ≤ i ∧ i < b) := by omega
  simp only [getElem?_foldl_setIfInBounds, List.mem_range'_1, hrange]

theorem getElem?_foldl_paint (n i : Nat) (acc : Array (Option Style)) (hsize : acc.size = n)
    (spans : List Span) :
    (spans.foldl (fun acc sp =>
        paintRange acc (min sp.start (min sp.stop n)) (min sp.stop n) sp.style) acc)[i]? =
      acc[i]?.map (lastStyleAt spans i).or := by
  -- the last span is painted last: induct from the end of the list
  induction spans using List.reverseRecOn with
  | nil =>
    simp only [List.foldl_nil, lastStyleAt_nil]
    cases acc[i]? <;> rfl
  | append_singleton spans sp ih =>
    rw [List.foldl_append, List.foldl_cons, List.foldl_nil, getElem?_paintRange, ih,
      size_foldl_paintRange, lastStyleAt_append_singleton]
    by_cases hi : i < acc.size
    · -- inside the array the clamped range is the span's own: decide by whether it covers `i`
      simp only [sp.clamped_iff_covers (hsize ▸ hi), hi, and_true]
      by_cases hcov : sp.covers i <;> simp [hcov, Array.getElem?_eq_getElem hi]
    · simp [hi]

/-- **The last span wins.**  For every line and every list of spans, also spans with ends
swapped or past the end of the line, `flatten` gives one entry per byte, and the entry of byte
`i` is the style of the last span in the list with `start ≤ i < stop`, or none when no span
covers `i`. -/
theorem flatten_eq_lastStyleAt (line : String) (spans : List Span) :
    (flatten line spans).size = line.utf8ByteSize ∧
      ∀ i, (flatten line spans)[i]? =
        if i < line.utf8ByteSize then some (lastStyleAt spans i) else none := by
  refine ⟨size_flatten line spans, fun i => ?_⟩
  rw [flatten, getElem?_foldl_paint line.utf8ByteSize i _ (Array.size_replicate ..) spans]
  by_cases hi : i < line.utf8ByteSize <;> simp [hi]

example : flatten "<tag>" [⟨0, 5, .element⟩, ⟨0, 1, .operator⟩, ⟨4, 5, .operator⟩] =
    #[some .operator, some .element, some .element, some .element, some .operator] := by
  decide

end Highlight
