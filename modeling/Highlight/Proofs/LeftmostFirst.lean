import Mathlib
import Highlight.Proofs.VisitedSet
import Highlight.Proofs.Backtrack

/-!
# The search answers the leftmost-first match

`Program.Pick` is the outcome of a depth-first search that remembers nothing: from an instruction
and a position it tries the first target of every `split` before the second and answers the slots
of the first `accept` it reaches.  `Program.search` remembers the pairs it has explored and never
explores one twice, and runs on fuel.  Neither changes the answer, when every round of a loop
reads a character (`Program.Ranked`: a ranking of the instructions that every step reading
nothing lowers):

* a pair explored before and met again has no chain of steps to `accept`, or the search would have
  stopped there, so skipping it skips nothing (`Program.Ready`, `Program.Keeps`);
* each step either pops a frame or marks a new pair, and three steps per pair and one per frame
  pay for the whole search (`Program.budget`), within the fuel the search is given.

So the search answers the depth-first outcome at the first start position that has one
(`Program.search_eq_some`), and nothing when none has (`Program.search_eq_none`).  The argument is
an induction on the height of a pair in the graph of steps (`Program.height`), one case per
instruction (`Program.settles`).
-/

namespace Highlight.Regex

/-- The instructions an instruction may go on to. -/
def Inst.targets : Inst → List Nat
  | .char _ next | .save _ next | .assert _ next | .jump next => [next]
  | .split a b => [a, b]
  | .accept => []

/-- The instructions an instruction goes on to without reading a character. -/
def Inst.quietTargets : Inst → List Nat
  | .split a b => [a, b]
  | .save _ next | .assert _ next | .jump next => [next]
  | .char _ _ | .accept => []

namespace Program

variable (p : Program) (cs : Array Char)

/-- The start and every target of every instruction are instructions of the program. -/
def Targets : Prop :=
  p.start < p.insts.size ∧ ∀ pc (h : pc < p.insts.size), ∀ t ∈ p.insts[pc].targets, t < p.insts.size

/-- A ranking of the instructions that every step reading no character lowers: a chain of steps
that comes back to an instruction has read a character on the way. -/
def Ranked (f : Nat → Nat) : Prop :=
  ∀ pc (h : pc < p.insts.size), ∀ t ∈ p.insts[pc].quietTargets, f t < f pc

instance : Decidable p.Targets :=
  inferInstanceAs (Decidable (p.start < p.insts.size ∧
    ∀ pc (h : pc < p.insts.size), ∀ t ∈ p.insts[pc].targets, t < p.insts.size))

instance (f : Nat → Nat) : Decidable (p.Ranked f) :=
  inferInstanceAs (Decidable (∀ pc (h : pc < p.insts.size), ∀ t ∈ p.insts[pc].quietTargets, f t < f pc))

/-- The pairs of instruction and position that may follow one in a step of the machine, whatever
its capture slots. -/
def Edge (x y : Nat × Nat) : Prop :=
  match p.insts[x.1]? with
  | some (.char ranges next) =>
    ∃ ch, cs[x.2]? = some ch ∧ CharClass.searchRanges ranges ch.toNat = true ∧ y = (next, x.2 + 1)
  | some (.split a b) => y = (a, x.2) ∨ y = (b, x.2)
  | some (.save _ next) | some (.jump next) => y = (next, x.2)
  | some (.assert l next) => l.holds cs x.2 = true ∧ y = (next, x.2)
  | some .accept | none => False

/-- A pair from which a chain of steps reaches `accept`. -/
def Live (x : Nat × Nat) : Prop :=
  ∃ y, Relation.ReflTransGen (Edge p cs) x y ∧ p.insts[y.1]? = some .accept

/-- **The depth-first outcome.** What a search from instruction `pc` at position `pos` with the
slots `σ` answers when it tries the first target of every split before the second and remembers
nothing: the slots at the first `accept` it reaches, or `none`. -/
inductive Pick : Nat → Nat → Array (Option Nat) → Option (Array (Option Nat)) → Prop
  | accept {pc pos σ} : p.insts[pc]? = some .accept → Pick pc pos σ (some σ)
  | read {pc pos σ ranges next ch r} : p.insts[pc]? = some (.char ranges next) →
      cs[pos]? = some ch → CharClass.searchRanges ranges ch.toNat = true →
      Pick next (pos + 1) σ r → Pick pc pos σ r
  | noRead {pc pos σ ranges next} : p.insts[pc]? = some (.char ranges next) →
      (∀ ch, cs[pos]? = some ch → CharClass.searchRanges ranges ch.toNat = false) →
      Pick pc pos σ none
  | first {pc pos σ a b τ} : p.insts[pc]? = some (.split a b) → Pick a pos σ (some τ) →
      Pick pc pos σ (some τ)
  | second {pc pos σ a b r} : p.insts[pc]? = some (.split a b) → Pick a pos σ none →
      Pick b pos σ r → Pick pc pos σ r
  | save {pc pos σ slot next r} : p.insts[pc]? = some (.save slot next) →
      Pick next pos (σ.setIfInBounds slot (some pos)) r → Pick pc pos σ r
  | holds {pc pos σ l next r} : p.insts[pc]? = some (.assert l next) → l.holds cs pos = true →
      Pick next pos σ r → Pick pc pos σ r
  | fails {pc pos σ l next} : p.insts[pc]? = some (.assert l next) → l.holds cs pos = false →
      Pick pc pos σ none
  | jump {pc pos σ next r} : p.insts[pc]? = some (.jump next) → Pick next pos σ r →
      Pick pc pos σ r
  | missing {pc pos σ} : p.insts[pc]? = none → Pick pc pos σ none

variable {p cs}

/-! ## The depth-first outcome -/

theorem Live.of_edge {x y : Nat × Nat} (he : Edge p cs x y) (hy : Live p cs y) : Live p cs x := by
  obtain ⟨z, hyz, hz⟩ := hy
  exact ⟨z, .head he hyz, hz⟩

theorem Live.cases {x : Nat × Nat} (hx : Live p cs x) :
    p.insts[x.1]? = some .accept ∨ ∃ y, Edge p cs x y ∧ Live p cs y := by
  obtain ⟨z, hxz, hz⟩ := hx
  rcases Relation.ReflTransGen.cases_head hxz with rfl | ⟨y, hxy, hyz⟩
  · exact .inl hz
  · exact .inr ⟨y, hxy, z, hyz, hz⟩

theorem Live.next {pc pos : Nat} {inst : Inst} (hx : Live p cs (pc, pos))
    (hi : p.insts[pc]? = some inst) (hne : inst ≠ .accept) :
    ∃ y, Edge p cs (pc, pos) y ∧ Live p cs y := by
  rcases hx.cases with hacc | hy
  · rw [hi] at hacc
    exact absurd (Option.some.inj hacc) hne
  · exact hy

theorem edge_read {pc pos next : Nat} {ranges : Array (Nat × Nat)} {ch : Char}
    (hi : p.insts[pc]? = some (.char ranges next)) (hc : cs[pos]? = some ch)
    (hin : CharClass.searchRanges ranges ch.toNat = true) : Edge p cs (pc, pos) (next, pos + 1) := by
  simp [Edge, hi, hc, hin]

theorem edge_first {pc pos a b : Nat} (hi : p.insts[pc]? = some (.split a b)) :
    Edge p cs (pc, pos) (a, pos) := by
  simp [Edge, hi]

theorem edge_second {pc pos a b : Nat} (hi : p.insts[pc]? = some (.split a b)) :
    Edge p cs (pc, pos) (b, pos) := by
  simp [Edge, hi]

theorem edge_save {pc pos slot next : Nat} (hi : p.insts[pc]? = some (.save slot next)) :
    Edge p cs (pc, pos) (next, pos) := by
  simp [Edge, hi]

theorem edge_holds {pc pos next : Nat} {l : Look} (hi : p.insts[pc]? = some (.assert l next))
    (hl : l.holds cs pos = true) : Edge p cs (pc, pos) (next, pos) := by
  simp [Edge, hi, hl]

theorem edge_jump {pc pos next : Nat} (hi : p.insts[pc]? = some (.jump next)) :
    Edge p cs (pc, pos) (next, pos) := by
  simp [Edge, hi]

namespace Pick

theorem live {pc pos : Nat} {σ : Array (Option Nat)} {r : Option (Array (Option Nat))}
    (h : Pick p cs pc pos σ r) (hr : r.isSome) : Live p cs (pc, pos) := by
  induction h with
  | accept hi => exact ⟨_, .refl, hi⟩
  | read hi hc hin _ ih => exact (ih hr).of_edge (edge_read hi hc hin)
  | noRead | fails | missing => cases hr
  | first hi _ ih => exact (ih rfl).of_edge (edge_first hi)
  | second hi _ _ _ ih => exact (ih hr).of_edge (edge_second hi)
  | save hi _ ih => exact (ih hr).of_edge (edge_save hi)
  | holds hi hl _ ih => exact (ih hr).of_edge (edge_holds hi hl)
  | jump hi _ ih => exact (ih hr).of_edge (edge_jump hi)

theorem not_live {pc pos : Nat} {σ : Array (Option Nat)} {r : Option (Array (Option Nat))}
    (h : Pick p cs pc pos σ r) (hr : r = none) : ¬ Live p cs (pc, pos) := by
  induction h with
  | accept | first => cases hr
  | read hi hc _ _ ih =>
    intro hl
    obtain ⟨y, hy, hly⟩ := hl.next hi (by simp)
    simp only [Edge, hi] at hy
    obtain ⟨ch, hch, -, rfl⟩ := hy
    exact ih hr hly
  | noRead hi hno =>
    intro hl
    obtain ⟨y, hy, -⟩ := hl.next hi (by simp)
    simp only [Edge, hi] at hy
    obtain ⟨ch, hch, hin, -⟩ := hy
    simp [hno ch hch] at hin
  | second hi _ _ iha ihb =>
    intro hl
    obtain ⟨y, hy, hly⟩ := hl.next hi (by simp)
    simp only [Edge, hi] at hy
    rcases hy with rfl | rfl
    · exact iha rfl hly
    · exact ihb hr hly
  | save hi _ ih | jump hi _ ih =>
    intro hl
    obtain ⟨y, hy, hly⟩ := hl.next hi (by simp)
    simp only [Edge, hi] at hy
    subst hy
    exact ih hr hly
  | holds hi _ _ ih =>
    intro hl
    obtain ⟨y, hy, hly⟩ := hl.next hi (by simp)
    simp only [Edge, hi] at hy
    obtain ⟨-, rfl⟩ := hy
    exact ih hr hly
  | fails hi hno =>
    intro hl
    obtain ⟨y, hy, -⟩ := hl.next hi (by simp)
    simp only [Edge, hi, hno] at hy
    exact absurd hy.1 (by simp)
  | missing hi =>
    intro hl
    rcases hl.cases with hacc | ⟨y, hy, -⟩
    · simp [hi] at hacc
    · simp [Edge, hi] at hy

/-- **The outcome is determined**: the instruction decides which rule applies. -/
theorem unique {pc pos : Nat} {σ : Array (Option Nat)} {r r' : Option (Array (Option Nat))}
    (h : Pick p cs pc pos σ r) (h' : Pick p cs pc pos σ r') : r = r' := by
  induction h generalizing r' with
  | read _ _ _ _ ih | save _ _ ih | holds _ _ _ ih | jump _ _ ih =>
    cases h' <;> simp_all
    rename_i hn'
    exact ih hn'
  | first _ _ ih =>
    cases h' <;> simp_all
    · rename_i ha'
      exact Option.some.inj (ih ha')
    · rename_i ha' _
      exact absurd (ih ha') (by simp)
  | second _ _ _ iha ihb =>
    cases h' <;> simp_all
    · rename_i ha'
      exact absurd (iha ha') (by simp)
    · rename_i hb'
      exact ihb hb'
  | accept | noRead | fails | missing => cases h' <;> simp_all

end Pick

/-! ## Heights -/

/-- A bound of the ranking over the program's instructions. -/
def rankBound (f : Nat → Nat) : Nat := (List.range p.insts.size).foldr (fun pc m => max (f pc) m) 0

theorem le_rankBound (f : Nat → Nat) {pc : Nat} (h : pc < p.insts.size) : f pc ≤ p.rankBound f := by
  unfold rankBound
  have hmem : pc ∈ List.range p.insts.size := List.mem_range.2 h
  generalize List.range p.insts.size = l at hmem
  induction l with
  | nil => cases hmem
  | cons a l ih =>
    rcases List.mem_cons.1 hmem with rfl | hmem
    · exact Nat.le_max_left _ _
    · exact (ih hmem).trans (Nat.le_max_right _ _)

variable (p cs) in
/-- The height of a pair: every step from a pair of the program and the text lowers it. -/
def height (f : Nat → Nat) (x : Nat × Nat) : Nat := (cs.size - x.2) * (p.rankBound f + 1) + f x.1

section Ranked

variable {f : Nat → Nat} (hT : p.Targets) (hR : p.Ranked f)
include hT hR

/-- **A step stays within the program and the text and lowers the height.** -/
theorem Edge.lt_height {x y : Nat × Nat} (hx : x.1 < p.insts.size) (hpos : x.2 ≤ cs.size)
    (h : Edge p cs x y) :
    y.1 < p.insts.size ∧ x.2 ≤ y.2 ∧ y.2 ≤ cs.size ∧ height p cs f y < height p cs f x := by
  obtain ⟨pc, pos⟩ := x
  have hi : p.insts[pc]? = some p.insts[pc] := Array.getElem?_eq_getElem hx
  have htargets := hT.2 pc hx
  have hrank := hR pc hx
  unfold Edge at h
  unfold height
  rw [hi] at h
  -- a step that reads moves on one position; every other step lowers the ranking
  cases hinst : p.insts[pc] with
  | char ranges next =>
    simp only [hinst] at h htargets
    obtain ⟨ch, hch, -, rfl⟩ := h
    have hlt : pos < cs.size := (Array.getElem?_eq_some_iff.1 hch).1
    have hnext : next < p.insts.size := htargets next (by simp [Inst.targets])
    have hb := le_rankBound f hnext
    refine ⟨hnext, by simp, by simp; omega, ?_⟩
    obtain ⟨d, hd⟩ : ∃ d, cs.size - pos = d + 1 := ⟨cs.size - pos - 1, by omega⟩
    have hd' : cs.size - (pos + 1) = d := by omega
    simp only [hd, hd', Nat.succ_mul]
    omega
  | split a b =>
    simp only [hinst] at h htargets hrank
    have ha := htargets a (by simp [Inst.targets])
    have hb := htargets b (by simp [Inst.targets])
    have hfa := hrank a (by simp [Inst.quietTargets])
    have hfb := hrank b (by simp [Inst.quietTargets])
    rcases h with rfl | rfl <;> exact ⟨by assumption, le_refl _, hpos, by simpa using by omega⟩
  | save slot next | jump next =>
    simp only [hinst] at h htargets hrank
    subst h
    exact ⟨htargets next (by simp [Inst.targets]), le_refl _, hpos,
      by simpa using hrank next (by simp [Inst.quietTargets])⟩
  | assert l next =>
    simp only [hinst] at h htargets hrank
    obtain ⟨-, rfl⟩ := h
    exact ⟨htargets next (by simp [Inst.targets]), le_refl _, hpos,
      by simpa using hrank next (by simp [Inst.quietTargets])⟩
  | accept => simp [hinst] at h

theorem reach_le {x y : Nat × Nat} (hx : x.1 < p.insts.size) (hpos : x.2 ≤ cs.size)
    (h : Relation.ReflTransGen (Edge p cs) x y) :
    y.1 < p.insts.size ∧ x.2 ≤ y.2 ∧ y.2 ≤ cs.size ∧ height p cs f y ≤ height p cs f x := by
  induction h with
  | refl => exact ⟨hx, le_refl _, hpos, le_refl _⟩
  | tail _ hyz ih =>
    obtain ⟨h₁, h₂, h₃, h₄⟩ := ih
    obtain ⟨g₁, g₂, g₃, g₄⟩ := Edge.lt_height hT hR h₁ h₃ hyz
    exact ⟨g₁, h₂.trans g₂, g₃, by omega⟩

theorem not_reach_back {x y : Nat × Nat} (hx : x.1 < p.insts.size) (hpos : x.2 ≤ cs.size)
    (he : Edge p cs x y) : ¬ Relation.ReflTransGen (Edge p cs) y x := by
  intro hback
  obtain ⟨h₁, -, h₃, h₄⟩ := Edge.lt_height hT hR hx hpos he
  have := (reach_le hT hR h₁ h₃ hback).2.2.2
  omega

/-- **The depth-first search always answers** from a pair of the program and the text. -/
theorem exists_pick (σ : Array (Option Nat)) :
    ∀ x : Nat × Nat, x.1 < p.insts.size → x.2 ≤ cs.size → ∃ r, Pick p cs x.1 x.2 σ r := by
  intro x
  induction hn : height p cs f x using Nat.strong_induction_on generalizing x σ with
  | _ n ih =>
  obtain ⟨pc, pos⟩ := x
  intro hx hpos
  -- every pair that may follow has a smaller height, so it has an outcome already
  have hnext : ∀ y σ', Edge p cs (pc, pos) y → ∃ r, Pick p cs y.1 y.2 σ' r := fun y σ' he => by
    obtain ⟨h₁, -, h₃, h₄⟩ := Edge.lt_height hT hR hx hpos he
    exact ih _ (hn ▸ h₄) σ' y rfl h₁ h₃
  have hi : p.insts[pc]? = some p.insts[pc] := Array.getElem?_eq_getElem hx
  cases hinst : p.insts[pc] with
  | accept => exact ⟨_, .accept (hinst ▸ hi)⟩
  | char ranges next =>
    rw [hinst] at hi
    cases hch : cs[pos]? with
    | none => exact ⟨_, .noRead hi (by simp [hch])⟩
    | some ch =>
      cases hin : CharClass.searchRanges ranges ch.toNat with
      | false => exact ⟨_, .noRead hi fun ch' h' => by rw [hch] at h'; cases h'; exact hin⟩
      | true =>
        obtain ⟨r, hr⟩ := hnext (next, pos + 1) σ (edge_read hi hch hin)
        exact ⟨r, .read hi hch hin hr⟩
  | split a b =>
    rw [hinst] at hi
    obtain ⟨ra, ha⟩ := hnext (a, pos) σ (edge_first hi)
    cases ra with
    | some τ => exact ⟨_, .first hi ha⟩
    | none =>
      obtain ⟨rb, hb⟩ := hnext (b, pos) σ (edge_second hi)
      exact ⟨rb, .second hi ha hb⟩
  | save slot next' =>
    rw [hinst] at hi
    obtain ⟨r, hr⟩ := hnext (next', pos) (σ.setIfInBounds slot (some pos)) (edge_save hi)
    exact ⟨r, .save hi hr⟩
  | assert l next' =>
    rw [hinst] at hi
    cases hl : l.holds cs pos with
    | false => exact ⟨_, .fails hi hl⟩
    | true =>
      obtain ⟨r, hr⟩ := hnext (next', pos) σ (edge_holds hi hl)
      exact ⟨r, .holds hi hl hr⟩
  | jump next' =>
    rw [hinst] at hi
    obtain ⟨r, hr⟩ := hnext (next', pos) σ (edge_jump hi)
    exact ⟨r, .jump hi hr⟩

end Ranked

/-! ## The machine, one instruction at a time -/

section Run

variable (p cs)

theorem run_restore (fuel slot : Nat) (v : Option Nat) (rest : List Frame)
    (σ : Array (Option Nat)) (vis : Visited) :
    p.run cs (fuel + 1) (.restore slot v :: rest) σ vis =
      p.run cs fuel rest (σ.setIfInBounds slot v) vis := by
  rw [run]

theorem run_nil (fuel : Nat) (σ : Array (Option Nat)) (vis : Visited) :
    p.run cs fuel [] σ vis = (none, vis) := by
  cases fuel <;> rw [run]

variable {p cs}

variable {fuel pc pos : Nat} {rest : List Frame} {σ : Array (Option Nat)} {vis : Visited}

theorem run_visited (h : vis.contains pc pos = true) :
    p.run cs (fuel + 1) (.explore pc pos :: rest) σ vis = p.run cs fuel rest σ vis := by
  rw [run, if_pos h]

theorem run_accept (h : vis.contains pc pos = false) (hi : p.insts[pc]? = some .accept) :
    p.run cs (fuel + 1) (.explore pc pos :: rest) σ vis = (some σ, vis.insert pc pos) := by
  rw [run, if_neg (by simp [h]), hi]

theorem run_read {ranges : Array (Nat × Nat)} {next : Nat} {ch : Char}
    (h : vis.contains pc pos = false) (hi : p.insts[pc]? = some (.char ranges next))
    (hc : cs[pos]? = some ch) (hin : CharClass.searchRanges ranges ch.toNat = true) :
    p.run cs (fuel + 1) (.explore pc pos :: rest) σ vis =
      p.run cs fuel (.explore next (pos + 1) :: rest) σ (vis.insert pc pos) := by
  rw [run, if_neg (by simp [h]), hi]
  simp only [hc, hin, if_true]

theorem run_noRead {ranges : Array (Nat × Nat)} {next : Nat}
    (h : vis.contains pc pos = false) (hi : p.insts[pc]? = some (.char ranges next))
    (hno : ∀ ch, cs[pos]? = some ch → CharClass.searchRanges ranges ch.toNat = false) :
    p.run cs (fuel + 1) (.explore pc pos :: rest) σ vis = p.run cs fuel rest σ (vis.insert pc pos) := by
  rw [run, if_neg (by simp [h]), hi]
  cases hc : cs[pos]? with
  | none => rfl
  | some ch => simp [hno ch hc]

theorem run_split {a b : Nat} (h : vis.contains pc pos = false)
    (hi : p.insts[pc]? = some (.split a b)) :
    p.run cs (fuel + 1) (.explore pc pos :: rest) σ vis =
      p.run cs fuel (.explore a pos :: .explore b pos :: rest) σ (vis.insert pc pos) := by
  rw [run, if_neg (by simp [h]), hi]

theorem run_save {slot next : Nat} (h : vis.contains pc pos = false)
    (hi : p.insts[pc]? = some (.save slot next)) :
    p.run cs (fuel + 1) (.explore pc pos :: rest) σ vis =
      p.run cs fuel (.explore next pos :: .restore slot (σ.getD slot none) :: rest)
        (σ.setIfInBounds slot (some pos)) (vis.insert pc pos) := by
  rw [run, if_neg (by simp [h]), hi]

theorem run_holds {l : Look} {next : Nat} (h : vis.contains pc pos = false)
    (hi : p.insts[pc]? = some (.assert l next)) (hl : l.holds cs pos = true) :
    p.run cs (fuel + 1) (.explore pc pos :: rest) σ vis =
      p.run cs fuel (.explore next pos :: rest) σ (vis.insert pc pos) := by
  rw [run, if_neg (by simp [h]), hi]
  simp only [hl, if_true]

theorem run_fails {l : Look} {next : Nat} (h : vis.contains pc pos = false)
    (hi : p.insts[pc]? = some (.assert l next)) (hl : l.holds cs pos = false) :
    p.run cs (fuel + 1) (.explore pc pos :: rest) σ vis = p.run cs fuel rest σ (vis.insert pc pos) := by
  rw [run, if_neg (by simp [h]), hi]
  simp only [hl, Bool.false_eq_true, if_false]

theorem run_jump {next : Nat} (h : vis.contains pc pos = false)
    (hi : p.insts[pc]? = some (.jump next)) :
    p.run cs (fuel + 1) (.explore pc pos :: rest) σ vis =
      p.run cs fuel (.explore next pos :: rest) σ (vis.insert pc pos) := by
  rw [run, if_neg (by simp [h]), hi]

end Run

/-! ## What the machine keeps -/

variable (p cs) in
/-- From `vis` to `vis'` the machine kept its instructions and origin, lost no pair, and marked a
pair of the program at or after the origin only when no chain of steps from it reaches
`accept`. -/
structure Keeps (vis vis' : Visited) : Prop where
  insts : vis'.insts = vis.insts
  origin : vis'.origin = vis.origin
  grows : ∀ pc pos, pc < vis.insts → vis.origin ≤ pos → vis.contains pc pos = true →
    vis'.contains pc pos = true
  dead : ∀ pc pos, pc < vis.insts → vis.origin ≤ pos → vis'.contains pc pos = true →
    vis.contains pc pos = true ∨ ¬ Live p cs (pc, pos)

theorem Keeps.refl (vis : Visited) : Keeps p cs vis vis :=
  ⟨rfl, rfl, fun _ _ _ _ h => h, fun _ _ _ _ h => .inl h⟩

theorem Keeps.trans {vis₁ vis₂ vis₃ : Visited} (h₁ : Keeps p cs vis₁ vis₂) (h₂ : Keeps p cs vis₂ vis₃) :
    Keeps p cs vis₁ vis₃ := by
  refine ⟨h₂.insts.trans h₁.insts, h₂.origin.trans h₁.origin, fun pc pos hpc hpos h => ?_,
    fun pc pos hpc hpos h => ?_⟩
  · exact h₂.grows pc pos (h₁.insts ▸ hpc) (h₁.origin ▸ hpos) (h₁.grows pc pos hpc hpos h)
  · rcases h₂.dead pc pos (h₁.insts ▸ hpc) (h₁.origin ▸ hpos) h with h | h
    · exact h₁.dead pc pos hpc hpos h
    · exact .inr h

theorem Keeps.insert {vis : Visited} {pc pos : Nat} (hpc : pc < vis.insts) (hpos : vis.origin ≤ pos)
    (hdead : ¬ Live p cs (pc, pos)) : Keeps p cs vis (vis.insert pc pos) := by
  refine ⟨by simp, by simp, fun a b ha hb h => ?_, fun a b ha hb h => ?_⟩
  · rw [Visited.contains_insert hpc ha hpos hb, h, Bool.or_true]
  · rw [Visited.contains_insert hpc ha hpos hb] at h
    rcases Bool.or_eq_true_iff.1 h with h | h
    · simp only [Bool.and_eq_true, beq_iff_eq] at h
      obtain ⟨rfl, rfl⟩ := h
      exact .inr hdead
    · exact .inl h

theorem Keeps.marked_not_live {vis vis' : Visited} (hk : Keeps p cs vis vis')
    (hdead : ∀ pc pos, pc < vis.insts → vis.origin ≤ pos → vis.contains pc pos = true →
      ¬ Live p cs (pc, pos)) :
    ∀ pc pos, pc < vis'.insts → vis'.origin ≤ pos → vis'.contains pc pos = true →
      ¬ Live p cs (pc, pos) := by
  intro pc pos hpc hpos hc
  rcases hk.dead pc pos (by rwa [← hk.insts]) (by rwa [← hk.origin]) hc with hc | hc
  · exact hdead pc pos (by rwa [← hk.insts]) (by rwa [← hk.origin]) hc
  · exact hc

variable (p cs) in
/-- What the machine may still spend: three steps for every pair it may still visit, and one
for every frame. -/
def budget (vis : Visited) (stack : List Frame) : Nat := 3 * vis.free cs.size + stack.length

variable (p cs) in
/-- A pair ready to be explored: within the program and the text, at or after the origin of the
visited set, and every pair of the set that a chain of steps from it reaches is one from which
`accept` is out of reach. -/
structure Ready (vis : Visited) (x : Nat × Nat) : Prop where
  insts : vis.insts = p.insts.size
  origin : vis.origin ≤ x.2
  pos_le : x.2 ≤ cs.size
  pc_lt : x.1 < p.insts.size
  dead : ∀ y, Relation.ReflTransGen (Edge p cs) x y → vis.contains y.1 y.2 = true → ¬ Live p cs y

variable (p cs) in
/-- What exploring pair `(pc, pos)` above the frames `rest` comes to, given the depth-first
outcome from there: with an answer the machine answers it; without one it comes back to `rest`
with the slots as they were, having kept what it should, within its budget. -/
def Settles (fuel pc pos : Nat) (rest : List Frame) (σ : Array (Option Nat)) (vis : Visited) :
    Option (Array (Option Nat)) → Prop
  | some τ => (p.run cs fuel (.explore pc pos :: rest) σ vis).1 = some τ
  | none => ∃ fuel' vis', fuel' < fuel ∧
      p.run cs fuel (.explore pc pos :: rest) σ vis = p.run cs fuel' rest σ vis' ∧
      budget cs vis' rest ≤ fuel' ∧ Keeps p cs vis vis'

theorem budget_empty_lt (start : Nat) :
    budget cs (Visited.empty p.insts.size start) [] + 1 ≤
      3 * p.insts.size * (cs.size + 1 - start) + 3 := by
  have h := Visited.free_le (Visited.empty p.insts.size start) cs.size
  simp only [Visited.empty] at h
  unfold budget
  simp only [Visited.empty, List.length_nil, Nat.mul_assoc]
  omega

theorem budget_cons (vis : Visited) (fr : Frame) (rest : List Frame) :
    budget cs vis (fr :: rest) = budget cs vis rest + 1 := rfl

theorem budget_insert_lt {vis : Visited} {pc pos fuel : Nat} {rest : List Frame}
    (hfree : vis.free cs.size = (vis.insert pc pos).free cs.size + 1)
    (hfuel : budget cs vis rest + 1 ≤ fuel + 1) (pushed : List Frame) (hpush : pushed.length ≤ 2) :
    budget cs (vis.insert pc pos) (pushed ++ rest) + 1 ≤ fuel := by
  unfold budget at *
  rw [List.length_append]
  omega

theorem settles_of_step {fuel pc pos : Nat} {y : Nat × Nat} {rest : List Frame}
    {σ : Array (Option Nat)} {vis : Visited} {r : Option (Array (Option Nat))}
    (hx : Ready p cs vis (pc, pos))
    (hrun : p.run cs (fuel + 1) (.explore pc pos :: rest) σ vis =
      p.run cs fuel (.explore y.1 y.2 :: rest) σ (vis.insert pc pos))
    (hdead : r = none → ¬ Live p cs (pc, pos))
    (hy : Settles p cs fuel y.1 y.2 rest σ (vis.insert pc pos) r) :
    Settles p cs (fuel + 1) pc pos rest σ vis r := by
  cases r with
  | some τ =>
    simp only [Settles, hrun]
    exact hy
  | none =>
    obtain ⟨fuel', vis', hlt, hrun', hb, hk⟩ := hy
    exact ⟨fuel', vis', by omega, hrun.trans hrun', hb,
      (Keeps.insert (hx.insts ▸ hx.pc_lt) hx.origin (hdead rfl)).trans hk⟩

theorem settles_of_stop {fuel pc pos : Nat} {rest : List Frame} {σ : Array (Option Nat)}
    {vis : Visited} (hx : Ready p cs vis (pc, pos))
    (hfree : vis.free cs.size = (vis.insert pc pos).free cs.size + 1)
    (hfuel : budget cs vis rest + 1 ≤ fuel + 1)
    (hrun : p.run cs (fuel + 1) (.explore pc pos :: rest) σ vis =
      p.run cs fuel rest σ (vis.insert pc pos))
    (hdead : ¬ Live p cs (pc, pos)) : Settles p cs (fuel + 1) pc pos rest σ vis none := by
  exact ⟨fuel, vis.insert pc pos, by omega, hrun,
    Nat.le_of_succ_le (budget_insert_lt hfree hfuel [] (by simp)),
    Keeps.insert (hx.insts ▸ hx.pc_lt) hx.origin hdead⟩

section Ranked

variable {f : Nat → Nat} (hT : p.Targets) (hR : p.Ranked f)
include hT hR

theorem Ready.next {vis vis' : Visited} {pc pos : Nat} {y : Nat × Nat} (hx : Ready p cs vis (pc, pos))
    (he : Edge p cs (pc, pos) y) (hk : Keeps p cs (vis.insert pc pos) vis') : Ready p cs vis' y := by
  obtain ⟨h₁, h₂, h₃, -⟩ := Edge.lt_height hT hR hx.pc_lt hx.pos_le he
  have hins : vis'.insts = p.insts.size := by rw [hk.insts, Visited.insts_insert, hx.insts]
  have horig : vis'.origin = vis.origin := by rw [hk.origin, Visited.origin_insert]
  refine ⟨hins, by rw [horig]; exact hx.origin.trans h₂, h₃, h₁, fun z hyz hz => ?_⟩
  obtain ⟨g₁, g₂, -, -⟩ := reach_le hT hR h₁ h₃ hyz
  have hzpc : z.1 < vis.insts := hx.insts ▸ g₁
  have hzpos : vis.origin ≤ z.2 := (hx.origin.trans h₂).trans g₂
  rcases hk.dead z.1 z.2 (by simpa using hzpc) (by simpa using hzpos) hz with hz | hz
  · rw [Visited.contains_insert (hx.insts ▸ hx.pc_lt) hzpc hx.origin hzpos] at hz
    rcases Bool.or_eq_true_iff.1 hz with hz | hz
    · -- coming back to the marked pair would close a loop that reads nothing
      simp only [Bool.and_eq_true, beq_iff_eq] at hz
      obtain ⟨rfl, rfl⟩ := hz
      exact absurd hyz (not_reach_back hT hR hx.pc_lt hx.pos_le he)
    · exact hx.dead z (.head he hyz) hz
  · exact hz

/-- **Exploring a ready pair settles as the depth-first search does.**  By induction on the
height of the pair: a pair met again is dead and skipped; otherwise it is marked, and its
instruction decides, the pairs that may follow settling already. -/
theorem settles : ∀ (pc pos : Nat) (σ : Array (Option Nat)) (r : Option (Array (Option Nat)))
    (fuel : Nat) (rest : List Frame) (vis : Visited), Ready p cs vis (pc, pos) →
    budget cs vis rest + 1 ≤ fuel → Pick p cs pc pos σ r → Settles p cs fuel pc pos rest σ vis r := by
  intro pc pos
  induction hn : height p cs f (pc, pos) using Nat.strong_induction_on generalizing pc pos with
  | _ n ih =>
  intro σ r fuel rest vis hx hfuel hpick
  obtain ⟨fuel, rfl⟩ : ∃ k, fuel = k + 1 := ⟨fuel - 1, by omega⟩
  have hnext : ∀ y, Edge p cs (pc, pos) y → ∀ σ' r' fuel' rest' vis', Ready p cs vis' y →
      budget cs vis' rest' + 1 ≤ fuel' → Pick p cs y.1 y.2 σ' r' →
      Settles p cs fuel' y.1 y.2 rest' σ' vis' r' := fun y he => by
    obtain ⟨-, -, -, hlt⟩ := Edge.lt_height hT hR hx.pc_lt hx.pos_le he
    exact ih _ (hn ▸ hlt) y.1 y.2 rfl
  have hpick' : ∀ y σ', Edge p cs (pc, pos) y → ∃ r', Pick p cs y.1 y.2 σ' r' := fun y σ' he => by
    obtain ⟨h₁, -, h₃, -⟩ := Edge.lt_height hT hR hx.pc_lt hx.pos_le he
    exact exists_pick hT hR σ' y h₁ h₃
  by_cases hvis : vis.contains pc pos = true
  · -- met again: no chain of steps from it reaches `accept`, so skipping it is right
    have hdead : ¬ Live p cs (pc, pos) := hx.dead _ .refl hvis
    cases r with
    | some τ => exact absurd (hpick.live rfl) hdead
    | none => exact ⟨fuel, vis, by omega, run_visited hvis, by omega, Keeps.refl vis⟩
  have hnot : vis.contains pc pos = false := by simpa using hvis
  have hfree : vis.free cs.size = (vis.insert pc pos).free cs.size + 1 :=
    Visited.free_insert (hx.insts ▸ hx.pc_lt) hx.origin hx.pos_le hnot
  have hready : ∀ y, Edge p cs (pc, pos) y → Ready p cs (vis.insert pc pos) y :=
    fun y he => hx.next hT hR he (Keeps.refl _)
  have hdead : ∀ {r'}, Pick p cs pc pos σ r' → r' = none → ¬ Live p cs (pc, pos) :=
    fun h hr => h.not_live hr
  obtain ⟨inst, hi⟩ : ∃ inst, p.insts[pc]? = some inst :=
    ⟨_, Array.getElem?_eq_getElem hx.pc_lt⟩
  cases inst with
  | accept =>
    obtain rfl := hpick.unique (.accept hi)
    simp [Settles, run_accept hnot hi]
  | char ranges next =>
    cases hch : cs[pos]? with
    | none =>
      obtain rfl := hpick.unique (.noRead hi (by simp [hch]))
      exact settles_of_stop hx hfree hfuel (run_noRead hnot hi (by simp [hch])) (hdead hpick rfl)
    | some ch =>
      cases hin : CharClass.searchRanges ranges ch.toNat with
      | false =>
        have hno : ∀ ch', cs[pos]? = some ch' → CharClass.searchRanges ranges ch'.toNat = false :=
          fun ch' h' => by rw [hch] at h'; cases h'; exact hin
        obtain rfl := hpick.unique (.noRead hi hno)
        exact settles_of_stop hx hfree hfuel (run_noRead hnot hi hno) (hdead hpick rfl)
      | true =>
        have he := edge_read hi hch hin
        obtain ⟨r', hr'⟩ := hpick' _ σ he
        obtain rfl := hpick.unique (.read hi hch hin hr')
        exact settles_of_step hx (run_read hnot hi hch hin) (hdead hpick)
          (hnext _ he σ _ fuel rest _ (hready _ he) (budget_insert_lt hfree hfuel [] (by simp)) hr')
  | split a b =>
    have hea : Edge p cs (pc, pos) (a, pos) := edge_first hi
    have heb : Edge p cs (pc, pos) (b, pos) := edge_second hi
    obtain ⟨ra, hra⟩ := hpick' _ σ hea
    have hrun : p.run cs (fuel + 1) (.explore pc pos :: rest) σ vis =
        p.run cs fuel (.explore a pos :: .explore b pos :: rest) σ (vis.insert pc pos) :=
      run_split hnot hi
    -- the first target settles above the frame of the second
    have hsa := hnext _ hea σ ra fuel (.explore b pos :: rest) _ (hready _ hea)
      (budget_insert_lt hfree hfuel [.explore b pos] (by simp)) hra
    cases ra with
    | some τ =>
      obtain rfl := hpick.unique (.first hi hra)
      simp only [Settles, hrun]
      exact hsa
    | none =>
      obtain ⟨fuel', vis', hlt, hrun', hb, hk⟩ := hsa
      obtain ⟨rb, hrb⟩ := hpick' _ σ heb
      obtain rfl := hpick.unique (.second hi hra hrb)
      have hsb := hnext _ heb σ _ fuel' rest vis' (hx.next hT hR heb hk)
        (by rwa [budget_cons] at hb) hrb
      cases r with
      | some τ =>
        simp only [Settles, hrun, hrun']
        exact hsb
      | none =>
        obtain ⟨fuel'', vis'', hlt', hrun'', hb', hk'⟩ := hsb
        exact ⟨fuel'', vis'', by omega, hrun.trans (hrun'.trans hrun''), hb',
          ((Keeps.insert (hx.insts ▸ hx.pc_lt) hx.origin (hdead hpick rfl)).trans hk).trans hk'⟩
  | save slot next =>
    have he : Edge p cs (pc, pos) (next, pos) := edge_save hi
    obtain ⟨r', hr'⟩ := hpick' _ (σ.setIfInBounds slot (some pos)) he
    obtain rfl := hpick.unique (.save hi hr')
    have hrun : p.run cs (fuel + 1) (.explore pc pos :: rest) σ vis =
        p.run cs fuel (.explore next pos :: .restore slot (σ.getD slot none) :: rest)
          (σ.setIfInBounds slot (some pos)) (vis.insert pc pos) :=
      run_save hnot hi
    -- the frame below puts the slot back when the search backs up over the save
    have hs := hnext _ he _ _ fuel (.restore slot (σ.getD slot none) :: rest) _ (hready _ he)
      (budget_insert_lt hfree hfuel [.restore slot (σ.getD slot none)] (by simp)) hr'
    cases r with
    | some τ =>
      simp only [Settles, hrun]
      exact hs
    | none =>
      obtain ⟨fuel', vis', hlt, hrun', hb, hk⟩ := hs
      rw [budget_cons] at hb
      -- the restoring frame is still to be popped, which takes one more step
      obtain ⟨fuel'', rfl⟩ : ∃ k, fuel' = k + 1 := ⟨fuel' - 1, by omega⟩
      refine ⟨fuel'', vis', by omega, ?_, by omega,
        (Keeps.insert (hx.insts ▸ hx.pc_lt) hx.origin (hdead hpick rfl)).trans hk⟩
      rw [hrun, hrun', run_restore, setIfInBounds_restore]
  | assert l next =>
    cases hl : l.holds cs pos with
    | false =>
      obtain rfl := hpick.unique (.fails hi hl)
      exact settles_of_stop hx hfree hfuel (run_fails hnot hi hl) (hdead hpick rfl)
    | true =>
      have he := edge_holds hi hl
      obtain ⟨r', hr'⟩ := hpick' _ σ he
      obtain rfl := hpick.unique (.holds hi hl hr')
      exact settles_of_step hx (run_holds hnot hi hl) (hdead hpick)
        (hnext _ he σ _ fuel rest _ (hready _ he) (budget_insert_lt hfree hfuel [] (by simp)) hr')
  | jump next =>
    have he : Edge p cs (pc, pos) (next, pos) := edge_jump hi
    obtain ⟨r', hr'⟩ := hpick' _ σ he
    obtain rfl := hpick.unique (.jump hi hr')
    exact settles_of_step hx (run_jump hnot hi) (hdead hpick)
      (hnext _ he σ _ fuel rest _ (hready _ he) (budget_insert_lt hfree hfuel [] (by simp)) hr')

theorem settles_start {fuel start : Nat} {vis : Visited} (hins : vis.insts = p.insts.size)
    (horig : vis.origin ≤ start) (hstart : start ≤ cs.size)
    (hdead : ∀ pc pos, pc < vis.insts → vis.origin ≤ pos → vis.contains pc pos = true →
      ¬ Live p cs (pc, pos))
    (hfuel : budget cs vis [] + 1 ≤ fuel) :
    ∃ r, Pick p cs p.start start (Array.replicate p.slots none) r ∧
      Settles p cs fuel p.start start [] (Array.replicate p.slots none) vis r := by
  have hready : Ready p cs vis (p.start, start) := by
    refine ⟨hins, horig, hstart, hT.1, fun y hy hc => ?_⟩
    obtain ⟨h₁, h₂, -, -⟩ := reach_le hT hR hT.1 hstart hy
    exact hdead y.1 y.2 (hins ▸ h₁) (horig.trans h₂) hc
  obtain ⟨r, hr⟩ := exists_pick hT hR (Array.replicate p.slots none) (p.start, start) hT.1 hstart
  exact ⟨r, hr, settles hT hR _ _ _ r fuel [] vis hready hfuel hr⟩

/-- **Trying the starts one after another.**  From a visited set whose marked pairs are dead and
within the fuel, when no start from `start` to before `j` has a depth-first answer and `j` has
`τ`, the machine answers `τ`. -/
theorem tryStarts_eq_some {fuel j : Nat} {τ : Array (Option Nat)} (hj : j ≤ cs.size)
    (hat : Pick p cs p.start j (Array.replicate p.slots none) (some τ)) :
    ∀ n start vis, start ≤ j → j < start + n → vis.insts = p.insts.size → vis.origin ≤ start →
      (∀ s, start ≤ s → s < j → Pick p cs p.start s (Array.replicate p.slots none) none) →
      (∀ pc pos, pc < vis.insts → vis.origin ≤ pos → vis.contains pc pos = true →
        ¬ Live p cs (pc, pos)) →
      budget cs vis [] + 1 ≤ fuel → p.tryStarts cs fuel n start vis = some τ := by
  intro n
  induction n with
  | zero => intro start vis h₁ h₂; omega
  | succ n ih =>
    intro start vis hsj hjn hins horig hbefore hdead hfuel
    obtain ⟨r, hr, hs⟩ := settles_start hT hR hins horig (by omega) hdead hfuel
    rw [tryStarts]
    by_cases hstart : start = j
    · subst hstart
      obtain rfl := hr.unique hat
      simp only [Settles] at hs
      rcases hrun : p.run cs fuel [.explore p.start start] (Array.replicate p.slots none) vis with
        ⟨out, vis'⟩
      rw [hrun] at hs
      cases hs
      rfl
    · -- no answer here: the machine comes back empty-handed and goes on to the next start
      obtain rfl := hr.unique (hbefore start le_rfl (by omega))
      obtain ⟨fuel', vis', hlt, hrun, hb, hk⟩ := hs
      rw [hrun, run_nil]
      exact ih (start + 1) vis' (by omega) (by omega) (hk.insts.trans hins)
        (by rw [hk.origin]; omega) (fun s h₁ h₂ => hbefore s (by omega) h₂)
        (hk.marked_not_live hdead) (by omega)

theorem tryStarts_eq_none {fuel : Nat} :
    ∀ n start vis, start + n ≤ cs.size + 1 → vis.insts = p.insts.size → vis.origin ≤ start →
      (∀ s, start ≤ s → s < start + n → Pick p cs p.start s (Array.replicate p.slots none) none) →
      (∀ pc pos, pc < vis.insts → vis.origin ≤ pos → vis.contains pc pos = true →
        ¬ Live p cs (pc, pos)) →
      budget cs vis [] + 1 ≤ fuel → p.tryStarts cs fuel n start vis = none := by
  intro n
  induction n with
  | zero => intro start vis _ _ _ _ _ _; rfl
  | succ n ih =>
    intro start vis hn hins horig hnone hdead hfuel
    obtain ⟨r, hr, hs⟩ := settles_start hT hR hins horig (by omega) hdead hfuel
    obtain rfl := hr.unique (hnone start le_rfl (by omega))
    obtain ⟨fuel', vis', hlt, hrun, hb, hk⟩ := hs
    rw [tryStarts, hrun, run_nil]
    exact ih (start + 1) vis' (by omega) (hk.insts.trans hins) (by rw [hk.origin]; omega)
      (fun s h₁ h₂ => hnone s (by omega) (by omega)) (hk.marked_not_live hdead) (by omega)

/-- **The search answers the leftmost-first match.**  When no start position from `start` to
before `j` has a depth-first answer and `j`, within the text, has `τ`, the search answers `τ`. -/
theorem search_eq_some {start j : Nat} {τ : Array (Option Nat)} (hsj : start ≤ j)
    (hj : j ≤ cs.size)
    (hbefore : ∀ s, start ≤ s → s < j → Pick p cs p.start s (Array.replicate p.slots none) none)
    (hat : Pick p cs p.start j (Array.replicate p.slots none) (some τ)) :
    p.search cs start = some τ := by
  unfold search
  rw [if_neg (by omega)]
  exact tryStarts_eq_some hT hR hj hat _ start _ hsj (by omega) rfl le_rfl hbefore
    (by simp) (budget_empty_lt start)

/-- **The search answers nothing** when no start position from `start` on has a depth-first
answer. -/
theorem search_eq_none {start : Nat}
    (hnone : ∀ s, start ≤ s → s ≤ cs.size → Pick p cs p.start s (Array.replicate p.slots none) none) :
    p.search cs start = none := by
  unfold search
  split
  · rfl
  · exact tryStarts_eq_none hT hR _ start _ (by omega) rfl le_rfl
      (fun s h₁ h₂ => hnone s h₁ (by omega)) (by simp) (budget_empty_lt start)

end Ranked

end Program

end Highlight.Regex
