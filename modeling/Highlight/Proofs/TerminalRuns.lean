import Mathlib
import Highlight.Terminal
import Highlight.Proofs.AsciiBytes

/-!
# Painting a line on the terminal

`paintLine` writes the characters of a line that fit in the width limit, grouped into runs of the
same style, each run with the escapes of its style, and then one line end.  The main statement,
`paintLine_runs`, says so in full:

* the characters written are the longest prefix of the line whose columns add up to at most the
  limit, so the first character that would cross it ends the line, however narrow the characters
  after it (with no limit, the whole line);
* they are grouped into the maximal runs of characters of the same style, the style of a
  character being the one `flatten` gives its first byte (`IsRuns`);
* each run is written by `paintRun`, bare when it has no style or its style looks like plain text,
  and between the escapes of its colour, bold and italic and a reset otherwise.

The proof follows the loop of `paintChars` (`paintChars_runs`): the characters it has still to
read, the columns used so far and the run not yet written are its state, and the runs of
what it has read and will read line up with the runs it writes.
-/

namespace Highlight

/-- The columns a list of characters takes. -/
def columnsOf (cs : List Char) : Nat := cs.foldr (fun c n => columns c + n) 0

@[simp] theorem columnsOf_nil : columnsOf [] = 0 := rfl

@[simp] theorem columnsOf_cons (c : Char) (cs : List Char) :
    columnsOf (c :: cs) = columns c + columnsOf cs := rfl

/-- The text of a run of characters in a style, with the escapes that show the style. -/
def renderRun (r : Option Style × List Char) : String := paintRun (String.ofList r.2) r.1

/-- `runs` are the maximal runs of the styled characters `l`: read one after the other they give
`l`, none is empty, and each has another style than the one before it. -/
structure IsRuns (runs : List (Option Style × List Char)) (l : List (Option Style × Char)) :
    Prop where
  spell : runs.flatMap (fun r => r.2.map (r.1, ·)) = l
  nonempty : ∀ r ∈ runs, r.2 ≠ []
  differ : runs.IsChain fun a b => a.1 ≠ b.1

namespace IsRuns

theorem nil : IsRuns [] [] := ⟨rfl, by simp, .nil⟩

theorem single {st : Option Style} {cs : List Char} (h : cs ≠ []) :
    IsRuns [(st, cs)] (cs.map (st, ·)) :=
  ⟨by simp, by simpa using h, .singleton _⟩

theorem head_style {runs : List (Option Style × List Char)} {x : Option Style × Char}
    {l : List (Option Style × Char)} (h : IsRuns runs (x :: l)) :
    ∃ r rs, runs = r :: rs ∧ r.1 = x.1 := by
  obtain ⟨spell, nonempty, -⟩ := h
  cases runs with
  | nil => cases spell
  | cons r rs =>
    obtain ⟨c, cs, hr⟩ := List.exists_cons_of_ne_nil (nonempty r (by simp))
    rw [List.flatMap_cons, hr, List.map_cons, List.cons_append, List.cons.injEq] at spell
    exact ⟨r, rs, rfl, by rw [← spell.1]⟩

theorem cons {runs : List (Option Style × List Char)} {l : List (Option Style × Char)}
    {st s : Option Style} {cs : List Char} {c : Char} (h : IsRuns runs ((s, c) :: l))
    (hcs : cs ≠ []) (hne : s ≠ st) :
    IsRuns ((st, cs) :: runs) (cs.map (st, ·) ++ (s, c) :: l) := by
  obtain ⟨r, rs, rfl, hr⟩ := h.head_style
  obtain ⟨spell, nonempty, differ⟩ := h
  refine ⟨by rw [List.flatMap_cons, spell], fun r' hr' => ?_, ?_⟩
  · rcases List.mem_cons.1 hr' with rfl | hr'
    · exact hcs
    · exact nonempty r' hr'
  · exact List.isChain_cons_cons.2 ⟨fun h => hne (hr.symm.trans h.symm), differ⟩

end IsRuns

theorem join_renderRun_cons (r : Option Style × List Char) (runs : List (Option Style × List Char)) :
    String.join ((r :: runs).map renderRun) = renderRun r ++ String.join (runs.map renderRun) := by
  simp [String.join_cons]

theorem exists_runs_of_pending (st : Option Style) (run out : String) : ∃ runs,
    IsRuns runs (run.toList.map (st, ·)) ∧
      (if run.isEmpty then out else out ++ paintRun run st) = out ++ String.join (runs.map renderRun) := by
  by_cases hrun : run = ""
  · exact ⟨[], by simpa [hrun] using IsRuns.nil, by simp [hrun]⟩
  · refine ⟨[(st, run.toList)], IsRuns.single (by simpa using hrun), ?_⟩
    simp [String.isEmpty_iff, hrun, renderRun]

variable (styles : Array (Option Style)) (limit : Option Nat) (l : List Char)

theorem paintChars_cross {c : Char} {cs : List Char} {pos used W : Nat} {st : Option Style}
    {run out : String} (hW : limit = some W) (hgt : W < used + columns c) :
    paintChars styles limit (c :: cs) pos used st run out =
      if run.isEmpty then out else out ++ paintRun run st := by
  subst hW
  simp [paintChars, hgt]

theorem paintChars_fits {c : Char} {cs : List Char} {pos used : Nat} {st : Option Style}
    {run out : String} (hfit : ∀ W, limit = some W → used + columns c ≤ W) :
    paintChars styles limit (c :: cs) pos used st run out =
      if (styles.getD pos none != st && !run.isEmpty) = true then
        paintChars styles limit cs (pos + c.utf8Size) (used + columns c) (styles.getD pos none)
          c.toString (out ++ paintRun run st)
      else paintChars styles limit cs (pos + c.utf8Size) (used + columns c) (styles.getD pos none)
          (run.push c) out := by
  cases limit with
  | none => rfl
  | some W =>
    have : decide (used + columns c > W) = false := decide_eq_false (by have := hfit W rfl; omega)
    simp only [paintChars, this, Bool.false_eq_true, if_false]

/-- **The loop of `paintChars`.**  From any point of the line it writes after `out` the run not yet
written, then the runs of the longest part of the rest that fits the limit. -/
theorem paintChars_runs :
    ∀ (cs : List Char) (i pos used : Nat) (st : Option Style) (run out : String),
      l.drop i = cs → pos = byteOffset l i → (∀ W, limit = some W → used ≤ W) →
      ∃ k runs, k ≤ cs.length ∧
        (∀ W, limit = some W → used + columnsOf (cs.take k) ≤ W ∧
          (k < cs.length → W < used + columnsOf (cs.take (k + 1)))) ∧
        (limit = none → k = cs.length) ∧
        IsRuns runs (run.toList.map (st, ·) ++
          (cs.take k).mapIdx fun j c => (styles.getD (byteOffset l (i + j)) none, c)) ∧
        paintChars styles limit cs pos used st run out = out ++ String.join (runs.map renderRun) := by
  intro cs
  induction cs with
  | nil =>
    intro i pos used st run out _ _ hused
    obtain ⟨runs, hruns, hout⟩ := exists_runs_of_pending st run out
    exact ⟨0, runs, le_rfl, fun W hW => ⟨by simpa using hused W hW, by simp⟩, fun _ => rfl,
      by simpa using hruns, by rw [paintChars, hout]⟩
  | cons c cs ih =>
    intro i pos used st run out hcs hpos hused
    have hi : i < l.length := by
      by_contra hge
      rw [List.drop_eq_nil_of_le (by omega)] at hcs
      cases hcs
    have hc : l[i] = c := by
      rw [List.drop_eq_getElem_cons hi] at hcs
      exact (List.cons.inj hcs).1
    have hrest : l.drop (i + 1) = cs := by
      rw [List.drop_eq_getElem_cons hi] at hcs
      exact (List.cons.inj hcs).2
    have hnext : pos + c.utf8Size = byteOffset l (i + 1) := by
      rw [byteOffset_succ l i hi, hc, hpos]
    by_cases hcross : ∃ W, limit = some W ∧ W < used + columns c
    · -- the character would cross the limit: the line ends before it
      obtain ⟨W, hW, hgt⟩ := hcross
      obtain ⟨runs, hruns, hout⟩ := exists_runs_of_pending st run out
      refine ⟨0, runs, Nat.zero_le _, fun W' hW' => ?_, fun h => by simp [h] at hW,
        by simpa using hruns, by rw [paintChars_cross styles limit hW hgt, hout]⟩
      rw [hW, Option.some.injEq] at hW'
      subst hW'
      exact ⟨by simpa using hused W hW, fun _ => by simpa using hgt⟩
    · -- the character fits: it starts a new run in another style, or joins the run
      have hused' : ∀ W, limit = some W → used + columns c ≤ W := fun W hW =>
        Nat.le_of_not_lt fun h => hcross ⟨W, hW, h⟩
      have hfits : ∀ k, (∀ W, limit = some W → used + columns c + columnsOf (cs.take k) ≤ W ∧
          (k < cs.length → W < used + columns c + columnsOf (cs.take (k + 1)))) →
          ∀ W, limit = some W → used + columnsOf ((c :: cs).take (k + 1)) ≤ W ∧
            (k + 1 < (c :: cs).length → W < used + columnsOf ((c :: cs).take (k + 1 + 1))) := by
        intro k hW W hW'
        obtain ⟨h₁, h₂⟩ := hW W hW'
        simp only [List.take_succ_cons, columnsOf_cons, List.length_cons]
        exact ⟨by omega, fun h => by have := h₂ (by omega); omega⟩
      have hstyle : ∀ k, ((c :: cs).take (k + 1)).mapIdx
          (fun j c => (styles.getD (byteOffset l (i + j)) none, c)) = (styles.getD pos none, c) ::
            (cs.take k).mapIdx fun j c => (styles.getD (byteOffset l (i + 1 + j)) none, c) := by
        intro k
        rw [List.take_succ_cons, List.mapIdx_cons, hpos, Nat.add_zero]
        congr 2
        funext j c'
        rw [show i + (j + 1) = i + 1 + j by omega]
      rw [paintChars_fits styles limit hused']
      by_cases hnew : styles.getD pos none ≠ st ∧ run ≠ ""
      · -- a new style: the run so far is written and `c` starts the next one
        obtain ⟨k, runs, hk, hW, hnone, hruns, hout⟩ := ih (i + 1) (pos + c.utf8Size)
          (used + columns c) (styles.getD pos none) c.toString (out ++ paintRun run st) hrest hnext
          hused'
        refine ⟨k + 1, (st, run.toList) :: runs, by simpa using hk, hfits k hW,
          fun h => by simp [hnone h], ?_, ?_⟩
        · rw [hstyle]
          simp only [Char.toString_eq_singleton, String.toList_singleton, List.map_cons,
            List.map_nil, List.cons_append, List.nil_append] at hruns
          exact hruns.cons (by simpa using hnew.2) hnew.1
        · rw [if_pos (by simpa [String.isEmpty_eq_false_iff.2 hnew.2] using hnew.1), hout,
            join_renderRun_cons]
          simp [renderRun, String.append_assoc]
      · -- the same style, or the first character of a run: `c` joins the run
        obtain ⟨k, runs, hk, hW, hnone, hruns, hout⟩ := ih (i + 1) (pos + c.utf8Size)
          (used + columns c) (styles.getD pos none) (run.push c) out hrest hnext hused'
        refine ⟨k + 1, runs, by simpa using hk, hfits k hW, fun h => by simp [hnone h], ?_, ?_⟩
        · -- the run so far is empty, or in the style of `c`
          have hsame : run.toList.map (styles.getD pos none, ·) = run.toList.map (st, ·) := by
            by_cases hrun : run = ""
            · simp [hrun]
            · rw [Classical.not_not.1 fun h => hnew ⟨h, hrun⟩]
          rw [String.toList_push, List.map_append, hsame] at hruns
          rw [hstyle]
          simpa using hruns
        · rw [if_neg (by simpa [String.isEmpty_iff] using hnew)]
          exact hout

/-- **How a line is painted.**  The longest prefix that fits the width, cut into maximal runs of
one style as `flatten` gives it, each written by `paintRun`, and a line end. -/
theorem paintLine_runs (limit : Option Nat) (t : String) (spans : List Span) :
    ∃ k runs, k ≤ t.toList.length ∧
      (∀ W, limit = some W → columnsOf (t.toList.take k) ≤ W ∧
        (k < t.toList.length → W < columnsOf (t.toList.take (k + 1)))) ∧
      (limit = none → k = t.toList.length) ∧
      IsRuns runs ((t.toList.take k).mapIdx fun j c =>
        ((flatten t spans).getD (byteOffset t.toList j) none, c)) ∧
      paintLine limit t spans = String.join (runs.map renderRun) ++ "\n" := by
  obtain ⟨k, runs, hk, hW, hnone, hruns, hout⟩ :=
    paintChars_runs (flatten t spans) limit t.toList t.toList 0 0 0 none "" "" (List.drop_zero)
      (byteOffset_zero _).symm (fun _ _ => Nat.zero_le _)
  refine ⟨k, runs, hk, fun W h => by simpa using hW W h, hnone, by simpa using hruns, ?_⟩
  rw [paintLine, hout, String.empty_append]

end Highlight
