import Highlight.Regex.Search
import Highlight.Regex.Nullable

/-!
# The backtracking machine, step by step

`Program.run` explores the instructions of a program depth first.  Here the machine is read as a
relation instead: `Program.Step` says which configurations (instruction, position, capture slots)
may follow one, with no regard to the order in which the search tries them, and `Program.Steps n`
chains `n` of them.  What the search answers lies at the end of such a chain from where it
started.

`Expr.Traverse` reads an expression the same way: the position and slots before and after one
way of matching it.  A repetition may take any number of rounds from its least on; its upper
bound and its greed only order the ways.  Every traversal

* never moves back, and moves on when the expression is not nullable
  (`Expr.Traverse.lt_of_nullable_eq_false`);
* stays within the text (`Expr.Traverse.le_size`);
* writes only the slots of the expression's own groups, the two slots of a group together, in
  order, and within the stretch it traversed (`Expr.Traverse.slots`).
-/

namespace Highlight.Regex

/-- A configuration of the machine: the instruction to run, the position in the text and the
capture slots. -/
structure Config where
  pc : Nat
  pos : Nat
  slots : Array (Option Nat)

namespace Program

section

variable (insts : Array Inst) (cs : Array Char)

/-- The configurations that may follow `c` in one step of the machine on the text `cs`. -/
def Step (c d : Config) : Prop :=
  match insts[c.pc]? with
  | some (.char ranges next) =>
    ∃ ch, cs[c.pos]? = some ch ∧ CharClass.searchRanges ranges ch.toNat = true ∧
      d = ⟨next, c.pos + 1, c.slots⟩
  | some (.split a b) => d = ⟨a, c.pos, c.slots⟩ ∨ d = ⟨b, c.pos, c.slots⟩
  | some (.save slot next) => d = ⟨next, c.pos, c.slots.setIfInBounds slot (some c.pos)⟩
  | some (.assert l next) => l.holds cs c.pos = true ∧ d = ⟨next, c.pos, c.slots⟩
  | some (.jump next) => d = ⟨next, c.pos, c.slots⟩
  | some .accept | none => False

/-- Chains of `n` steps. -/
inductive Steps : Nat → Config → Config → Prop
  | refl (c : Config) : Steps 0 c c
  | step {n : Nat} {c d e : Config} : Step insts cs c d → Steps n d e → Steps (n + 1) c e

/-- The configurations that some chain of steps leads to. -/
def Reaches (c d : Config) : Prop := ∃ n, Steps insts cs n c d

end

section

variable {insts : Array Inst} {cs : Array Char}

theorem Steps.eq_of_zero {c d : Config} (h : Steps insts cs 0 c d) : c = d := by
  cases h
  rfl

theorem steps_succ_iff {n : Nat} {c e : Config} :
    Steps insts cs (n + 1) c e ↔ ∃ d, Step insts cs c d ∧ Steps insts cs n d e := by
  constructor
  · intro h
    cases h with
    | step hs rest => exact ⟨_, hs, rest⟩
  · rintro ⟨d, hs, rest⟩
    exact .step hs rest

theorem Steps.trans {m n : Nat} {c d e : Config} (h₁ : Steps insts cs m c d)
    (h₂ : Steps insts cs n d e) : Steps insts cs (m + n) c e := by
  induction h₁ with
  | refl => simpa using h₂
  | step hs _ ih =>
    rw [Nat.add_right_comm]
    exact .step hs (ih h₂)

theorem Reaches.refl (c : Config) : Reaches insts cs c c := ⟨0, .refl c⟩

theorem Reaches.tail {c d e : Config} (h : Reaches insts cs c d) (hs : Step insts cs d e) :
    Reaches insts cs c e := by
  obtain ⟨n, h⟩ := h
  exact ⟨n + 1, h.trans (.step hs (.refl e))⟩

theorem Steps.eq_of_accept {n : Nat} {c d : Config} (hc : insts[c.pc]? = some .accept)
    (h : Steps insts cs n c d) : c = d := by
  cases h with
  | refl => rfl
  | step hs => simp [Step, hc] at hs

end

end Program

namespace Expr

/-- One way of matching the expression on the text `cs` from position `i` with slots `σ`, ending
at position `j` with slots `τ`.  A repetition takes as many rounds beyond its least as it likes. -/
inductive Traverse (cs : Array Char) :
    Expr → Nat → Array (Option Nat) → Nat → Array (Option Nat) → Prop
  | empty {i σ} : Traverse cs .empty i σ i σ
  | set {c i σ ch} (hch : cs[i]? = some ch)
      (hin : CharClass.searchRanges c.ranges.toArray ch.toNat = true) :
      Traverse cs (.set c) i σ (i + 1) σ
  | look {l i σ} (hl : l.holds cs i = true) : Traverse cs (.look l) i σ i σ
  | cat {a b i σ j ρ k τ} : Traverse cs a i σ j ρ → Traverse cs b j ρ k τ →
      Traverse cs (.cat a b) i σ k τ
  | altLeft {a b i σ j τ} : Traverse cs a i σ j τ → Traverse cs (.alt a b) i σ j τ
  | altRight {a b i σ j τ} : Traverse cs b i σ j τ → Traverse cs (.alt a b) i σ j τ
  | repDone {hi greedy r i σ} : Traverse cs (.rep 0 hi greedy r) i σ i σ
  | repMore {lo hi greedy r i σ j ρ k τ} : Traverse cs r i σ j ρ →
      Traverse cs (.rep (lo - 1) hi greedy r) j ρ k τ → Traverse cs (.rep lo hi greedy r) i σ k τ
  | capture {n r i σ j τ} : Traverse cs r i (σ.setIfInBounds (2 * n) (some i)) j τ →
      Traverse cs (.capture n r) i σ j (τ.setIfInBounds (2 * n + 1) (some j))

/-- Group `g` reads the same in both slot arrays. -/
def GroupKept (σ τ : Array (Option Nat)) (g : Nat) : Prop :=
  τ[2 * g]? = σ[2 * g]? ∧ τ[2 * g + 1]? = σ[2 * g + 1]?

/-- Group `g` is recorded, its start before its end, both between `i` and `j`. -/
def GroupWithin (τ : Array (Option Nat)) (g i j : Nat) : Prop :=
  ∃ x y, τ[2 * g]? = some (some x) ∧ τ[2 * g + 1]? = some (some y) ∧ i ≤ x ∧ x ≤ y ∧ y ≤ j

theorem GroupKept.trans {σ ρ τ : Array (Option Nat)} {g : Nat} (h₁ : GroupKept σ ρ g)
    (h₂ : GroupKept ρ τ g) : GroupKept σ τ g :=
  ⟨h₂.1.trans h₁.1, h₂.2.trans h₁.2⟩

theorem GroupWithin.mono {τ : Array (Option Nat)} {g i j i' j' : Nat} (h : GroupWithin τ g i j)
    (hi : i' ≤ i) (hj : j ≤ j') : GroupWithin τ g i' j' := by
  obtain ⟨x, y, hx, hy, h1, h2, h3⟩ := h
  exact ⟨x, y, hx, hy, by omega, h2, by omega⟩

theorem GroupWithin.of_kept {ρ τ : Array (Option Nat)} {g i j : Nat} (h : GroupWithin ρ g i j)
    (hk : GroupKept ρ τ g) : GroupWithin τ g i j := by
  obtain ⟨x, y, hx, hy, hxy⟩ := h
  exact ⟨x, y, hk.1 ▸ hx, hk.2 ▸ hy, hxy⟩

namespace Traverse

variable {cs : Array Char}

theorem le {r : Expr} {i j : Nat} {σ τ : Array (Option Nat)} (h : Traverse cs r i σ j τ) :
    i ≤ j := by
  induction h <;> omega

/-- **A traversal of an expression that is not nullable reads at least one character.** -/
theorem lt_of_nullable_eq_false {r : Expr} {i j : Nat} {σ τ : Array (Option Nat)}
    (h : Traverse cs r i σ j τ) (hn : r.nullable = false) : i < j := by
  induction h with
  | empty | look | repDone => simp [nullable] at hn
  | set => omega
  | cat ha hb iha ihb =>
    simp only [nullable, Bool.and_eq_false_iff] at hn
    rcases hn with hn | hn
    · exact Nat.lt_of_lt_of_le (iha hn) hb.le
    · exact Nat.lt_of_le_of_lt ha.le (ihb hn)
  | altLeft _ ih =>
    simp only [nullable, Bool.or_eq_false_iff] at hn
    exact ih hn.1
  | altRight _ ih =>
    simp only [nullable, Bool.or_eq_false_iff] at hn
    exact ih hn.2
  | repMore hr hrest ihr _ =>
    -- the first round is one the repetition cannot skip, and it reads something
    simp only [nullable, Bool.or_eq_false_iff] at hn
    exact Nat.lt_of_lt_of_le (ihr hn.2) hrest.le
  | capture _ ih => exact ih hn

theorem le_size {r : Expr} {i j : Nat} {σ τ : Array (Option Nat)} (h : Traverse cs r i σ j τ)
    (hi : i ≤ cs.size) : j ≤ cs.size := by
  induction h with
  | set hch =>
    have := (Array.getElem?_eq_some_iff.1 hch).1
    omega
  | cat _ _ iha ihb => exact ihb (iha hi)
  | repMore _ _ ihr ihrest => exact ihrest (ihr hi)
  | altLeft _ ih | altRight _ ih | capture _ ih => exact ih hi
  | empty | look | repDone => exact hi

theorem size_eq {r : Expr} {i j : Nat} {σ τ : Array (Option Nat)} (h : Traverse cs r i σ j τ) :
    τ.size = σ.size := by
  induction h <;> simp_all

theorem cat_of_exists {a b : Expr} {i k : Nat} {σ τ : Array (Option Nat)}
    (h : ∃ j ρ, Traverse cs a i σ j ρ ∧ Traverse cs b j ρ k τ) : Traverse cs (.cat a b) i σ k τ := by
  obtain ⟨j, ρ, h₁, h₂⟩ := h
  exact .cat h₁ h₂

theorem repMore_of_exists {lo : Nat} {hi : Option Nat} {greedy : Bool} {r : Expr} {i k : Nat}
    {σ τ : Array (Option Nat)}
    (h : ∃ j ρ, Traverse cs r i σ j ρ ∧ Traverse cs (.rep (lo - 1) hi greedy r) j ρ k τ) :
    Traverse cs (.rep lo hi greedy r) i σ k τ := by
  obtain ⟨j, ρ, h₁, h₂⟩ := h
  exact .repMore h₁ h₂

theorem capture_eq_of_unique {n : Nat} {r : Expr} {i j₀ : Nat} {σ τ₀ : Array (Option Nat)}
    (huniq : ∀ j τ, Traverse cs r i (σ.setIfInBounds (2 * n) (some i)) j τ → j = j₀ ∧ τ = τ₀)
    {j : Nat} {ρ : Array (Option Nat)} (h : Traverse cs (.capture n r) i σ j ρ) :
    ρ = τ₀.setIfInBounds (2 * n + 1) (some j₀) := by
  cases h with
  | capture hinner =>
    obtain ⟨rfl, rfl⟩ := huniq _ _ hinner
    rfl

theorem getElem?_capture_slots (σ : Array (Option Nat)) {n g : Nat} (hg : g ≠ n) (v : Option Nat) :
    (σ.setIfInBounds (2 * n) v)[2 * g]? = σ[2 * g]? ∧
      (σ.setIfInBounds (2 * n) v)[2 * g + 1]? = σ[2 * g + 1]? ∧
      (σ.setIfInBounds (2 * n + 1) v)[2 * g]? = σ[2 * g]? ∧
      (σ.setIfInBounds (2 * n + 1) v)[2 * g + 1]? = σ[2 * g + 1]? := by
  refine ⟨?_, ?_, ?_, ?_⟩ <;> rw [Array.getElem?_setIfInBounds_ne (by omega)]

/-- **What a traversal does to the slots.** On slot arrays of even size, each group is either
left as it was or, when it is a group of the expression, recorded in order within the traversed
stretch. -/
theorem slots {r : Expr} {i j : Nat} {σ τ : Array (Option Nat)} (h : Traverse cs r i σ j τ)
    (hσ : σ.size % 2 = 0) (g : Nat) :
    GroupKept σ τ g ∨ (r.hasGroup g = true ∧ GroupWithin τ g i j) := by
  induction h with
  | empty | set | look | repDone => exact .inl ⟨rfl, rfl⟩
  | @cat a b i σ j ρ k τ ha hb iha ihb =>
    have hρ : ρ.size % 2 = 0 := by rw [ha.size_eq]; exact hσ
    -- the second part decides where it wrote; elsewhere the first part's record stands
    rcases ihb hρ with hkb | ⟨hgb, hwb⟩
    · rcases iha hσ with hka | ⟨hga, hwa⟩
      · exact .inl (hka.trans hkb)
      · exact .inr ⟨by simp [hasGroup, hga], (hwa.of_kept hkb).mono (Nat.le_refl _) hb.le⟩
    · exact .inr ⟨by simp [hasGroup, hgb], hwb.mono ha.le (Nat.le_refl _)⟩
  | altLeft _ ih =>
    rcases ih hσ with hk | ⟨hg, hw⟩
    · exact .inl hk
    · exact .inr ⟨by simp [hasGroup, hg], hw⟩
  | altRight _ ih =>
    rcases ih hσ with hk | ⟨hg, hw⟩
    · exact .inl hk
    · exact .inr ⟨by simp [hasGroup, hg], hw⟩
  | @repMore lo hi greedy r i σ j ρ k τ hr hrest ihr ihrest =>
    have hρ : ρ.size % 2 = 0 := by rw [hr.size_eq]; exact hσ
    rcases ihrest hρ with hkb | ⟨hgb, hwb⟩
    · rcases ihr hσ with hka | ⟨hga, hwa⟩
      · exact .inl (hka.trans hkb)
      · exact .inr ⟨by simp [hasGroup, hga], (hwa.of_kept hkb).mono (Nat.le_refl _) hrest.le⟩
    · exact .inr ⟨by simpa [hasGroup] using hgb, hwb.mono hr.le (Nat.le_refl _)⟩
  | @capture n r i σ j τ hr ih =>
    have hσ' : (σ.setIfInBounds (2 * n) (some i)).size % 2 = 0 := by simpa using hσ
    have hsize : τ.size = σ.size := by simpa using hr.size_eq
    by_cases hgn : g = n
    · subst hgn
      by_cases hin : 2 * g < σ.size
      · -- the group is opened at `i` (or again later, inside) and closed at `j`
        right
        refine ⟨by simp [hasGroup], ?_⟩
        have hclose : (τ.setIfInBounds (2 * g + 1) (some j))[2 * g + 1]? = some (some j) := by
          rw [Array.getElem?_setIfInBounds_self_of_lt (by omega)]
        have hopen : ∃ x, τ[2 * g]? = some (some x) ∧ i ≤ x ∧ x ≤ j := by
          rcases ih hσ' with hk | ⟨-, x, y, hx, -, hix, hxy, hyj⟩
          · exact ⟨i, by rw [hk.1, Array.getElem?_setIfInBounds_self_of_lt hin], (Nat.le_refl _), hr.le⟩
          · exact ⟨x, hx, hix, by omega⟩
        obtain ⟨x, hx, hix, hxj⟩ := hopen
        refine ⟨x, j, ?_, hclose, hix, hxj, (Nat.le_refl _)⟩
        rw [Array.getElem?_setIfInBounds_ne (by omega), hx]
      · -- slots beyond the array are never written
        left
        refine ⟨?_, ?_⟩ <;>
          rw [Array.getElem?_eq_none (by simp; omega), Array.getElem?_eq_none (by omega)]
    · obtain ⟨h1, h2, -, -⟩ := getElem?_capture_slots σ hgn (some i)
      obtain ⟨-, -, h3, h4⟩ := getElem?_capture_slots τ hgn (some j)
      rcases ih hσ' with hk | ⟨hg, hw⟩
      · exact .inl ⟨by rw [h3, hk.1, h1], by rw [h4, hk.2, h2]⟩
      · exact .inr ⟨by simp [hasGroup, hg], hw.of_kept ⟨h3, h4⟩⟩

end Traverse

end Expr

end Highlight.Regex
