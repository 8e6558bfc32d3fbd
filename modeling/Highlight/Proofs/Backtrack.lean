import Highlight.Proofs.Fragment

/-!
# What the search answers

`Program.run` keeps a stack of configurations still to explore, each with the slots it saw, and
of slot values to put back when it backs up over a `save`.  Whatever order it explores them in,
every configuration on the stack is one the machine reaches from where the search started
(`Program.StackOK`), so the slots of the `accept` it answers are the slots of a run of the
machine (`Program.run_sound`).  The visited set and the fuel only cut runs short.

For a compiled expression that run starts at the entry of group `0` and ends at the `accept`
the whole program goes on to, so it traverses the expression inside group `0`
(`Expr.traverse_of_search`).
-/

namespace Highlight.Regex

namespace Program

variable {insts : Array Inst} {cs : Array Char}

theorem setIfInBounds_restore (slots : Array (Option Nat)) (slot pos : Nat) :
    (slots.setIfInBounds slot (some pos)).setIfInBounds slot (slots.getD slot none) = slots := by
  apply Array.ext_getElem?
  intro i
  simp only [Array.getElem?_setIfInBounds, Array.size_setIfInBounds, Array.getD_eq_getD_getElem?]
  split
  · subst_vars
    split
    · rw [Array.getElem?_eq_getElem (by assumption)]
      rfl
    · rw [Array.getElem?_eq_none (by omega)]
  · rfl

/-- Every configuration on the stack is reached from `c₀`, with the slots it will see once the
values above it are put back. -/
def StackOK (insts : Array Inst) (cs : Array Char) (c₀ : Config) :
    List Frame → Array (Option Nat) → Prop
  | [], _ => True
  | .explore pc pos :: rest, slots => Reaches insts cs c₀ ⟨pc, pos, slots⟩ ∧ StackOK insts cs c₀ rest slots
  | .restore slot v :: rest, slots => StackOK insts cs c₀ rest (slots.setIfInBounds slot v)

/-- **The machine answers the slots of a run.** Whatever `run` answers are the slots of a
configuration at an `accept` that the machine reaches from `c₀`. -/
theorem run_sound (p : Program) (c₀ : Config) :
    ∀ (fuel : Nat) (stack : List Frame) (slots : Array (Option Nat)) (vis : Visited)
      {out : Array (Option Nat)},
      (p.run cs fuel stack slots vis).1 = some out → StackOK p.insts cs c₀ stack slots →
        ∃ pc pos, p.insts[pc]? = some .accept ∧ Reaches p.insts cs c₀ ⟨pc, pos, out⟩
  | 0, _, _, _, _, h, _ => by simp [run] at h
  | _ + 1, [], _, _, _, h, _ => by simp [run] at h
  | fuel + 1, .restore slot v :: rest, slots, vis, out, h, hok => by
    simp only [run] at h
    exact run_sound p c₀ fuel rest _ vis h hok
  | fuel + 1, .explore pc pos :: rest, slots, vis, out, h, hok => by
    obtain ⟨hreach, hrest⟩ := hok
    simp only [run] at h
    split at h
    · exact run_sound p c₀ fuel rest slots _ h hrest
    -- each instruction pushes configurations one step on from this one
    have hnext : ∀ {c : Config}, Step p.insts cs ⟨pc, pos, slots⟩ c → Reaches p.insts cs c₀ c :=
      hreach.tail
    split at h
    · rename_i ranges next hinst
      split at h
      · rename_i ch hch
        split at h
        · rename_i hin
          exact run_sound p c₀ fuel _ slots _ h
            ⟨hnext (by simp [Step, hinst, hch, hin]), hrest⟩
        · exact run_sound p c₀ fuel rest slots _ h hrest
      · exact run_sound p c₀ fuel rest slots _ h hrest
    · rename_i a b hinst
      exact run_sound p c₀ fuel _ slots _ h
        ⟨hnext (by simp [Step, hinst]), hnext (by simp [Step, hinst]), hrest⟩
    · rename_i slot next hinst
      refine run_sound p c₀ fuel _ _ _ h ⟨hnext (by simp [Step, hinst]), ?_⟩
      show StackOK p.insts cs c₀ rest _
      rw [setIfInBounds_restore]
      exact hrest
    · rename_i l next hinst
      split at h
      · rename_i hl
        exact run_sound p c₀ fuel _ slots _ h ⟨hnext (by simp [Step, hinst, hl]), hrest⟩
      · exact run_sound p c₀ fuel rest slots _ h hrest
    · rename_i next hinst
      exact run_sound p c₀ fuel _ slots _ h ⟨hnext (by simp [Step, hinst]), hrest⟩
    · rename_i hinst
      simp only [Option.some.injEq] at h
      subst h
      exact ⟨pc, pos, hinst, hreach⟩
    · exact run_sound p c₀ fuel rest slots _ h hrest

theorem tryStarts_sound (p : Program) (fuel : Nat) :
    ∀ (n start : Nat) (vis : Visited) {out : Array (Option Nat)},
      p.tryStarts cs fuel n start vis = some out →
        ∃ s, start ≤ s ∧ s < start + n ∧ ∃ pc pos, p.insts[pc]? = some .accept ∧
          Reaches p.insts cs ⟨p.start, s, Array.replicate p.slots none⟩ ⟨pc, pos, out⟩
  | 0, _, _, _, h => by simp [tryStarts] at h
  | n + 1, start, vis, out, h => by
    simp only [tryStarts] at h
    split at h
    · rename_i slots vis' hrun
      simp only [Option.some.injEq] at h
      subst h
      have hok : StackOK p.insts cs ⟨p.start, start, Array.replicate p.slots none⟩
          [.explore p.start start] (Array.replicate p.slots none) :=
        ⟨Reaches.refl _, trivial⟩
      obtain ⟨pc, pos, hacc, hreach⟩ := run_sound p _ fuel _ _ vis (by rw [hrun]) hok
      exact ⟨start, Nat.le_refl _, by omega, pc, pos, hacc, hreach⟩
    · obtain ⟨s, hs₁, hs₂, rest⟩ := tryStarts_sound p fuel n (start + 1) _ h
      exact ⟨s, by omega, by omega, rest⟩

theorem search_sound (p : Program) {start : Nat} {out : Array (Option Nat)}
    (h : p.search cs start = some out) :
    ∃ s, start ≤ s ∧ s ≤ cs.size ∧ ∃ pc pos, p.insts[pc]? = some .accept ∧
      Reaches p.insts cs ⟨p.start, s, Array.replicate p.slots none⟩ ⟨pc, pos, out⟩ := by
  unfold search at h
  split at h
  · cases h
  · obtain ⟨s, hs₁, hs₂, rest⟩ := tryStarts_sound p _ _ _ _ h
    exact ⟨s, hs₁, by omega, rest⟩

end Program

namespace Expr

theorem compile_shape (r : Expr) :
    r.compile.insts[0]? = some .accept ∧
      (∀ pc, r.compile.insts[pc]? = some .accept → pc = 0) ∧
      Program.compile (.capture 0 r) 0 #[.accept] = (r.compile.insts, r.compile.start) := by
  rcases h : Program.compile (.capture 0 r) 0 #[.accept] with ⟨q, e⟩
  have hc : r.compile = ⟨q, e, 2 * r.groupCount⟩ := by
    simp [Expr.compile, Program.emit, h]
  obtain ⟨g, -⟩ := Program.builds_compile _ h
  refine ⟨by rw [hc, g.keep 0 (by simp)]; rfl, fun pc hpc => ?_, by rw [hc]⟩
  rw [hc] at hpc
  rcases Nat.eq_zero_or_pos pc with h0 | hpos
  · exact h0
  · exact absurd hpc (g.noAccept pc (by simp; omega))

/-- **A run to `accept` is a traversal.**  A run of a compiled expression's program from its
start at position `s` that reaches `accept` has traversed the expression inside group `0`, from
`s` to where the run stops and from the slots it started with to those it stops with: the only
`accept` ends the fragment of the whole, which every run leaves through its exit. -/
theorem traverse_of_reaches {r : Expr} {cs : Array Char} {s pc pos : Nat}
    {σ τ : Array (Option Nat)} (hacc : r.compile.insts[pc]? = some .accept)
    (h : Program.Reaches r.compile.insts cs ⟨r.compile.start, s, σ⟩ ⟨pc, pos, τ⟩) :
    Traverse cs (.capture 0 r) s σ pos τ := by
  obtain ⟨n, hsteps⟩ := h
  obtain ⟨h₀, honly, hfrag⟩ := compile_shape r
  obtain rfl : pc = 0 := honly pc hacc
  have hexits : Program.Exits r.compile.insts cs (Traverse cs (.capture 0 r)) 0
      (#[Inst.accept] : Array Inst).size r.compile.start :=
    Program.exits_compile (.capture 0 r) hfrag (by simp) (fun _ _ _ => rfl)
  obtain ⟨m, -, j, τ', htr, hrest⟩ := hexits n s _ _ hsteps (by simp)
  have := hrest.eq_of_accept h₀
  simp only [Config.mk.injEq] at this
  obtain ⟨-, rfl, rfl⟩ := this
  exact htr

/-- **What the search of a compiled expression answers.** Its slots are those after a
traversal of the expression inside group `0`, from the empty slots at a start position at or
after `start` and within the text. -/
theorem traverse_of_search {r : Expr} {cs : Array Char} {start : Nat} {out : Array (Option Nat)}
    (h : r.compile.search cs start = some out) :
    ∃ s j, start ≤ s ∧ s ≤ cs.size ∧
      Traverse cs (.capture 0 r) s (Array.replicate (2 * r.groupCount) none) j out := by
  obtain ⟨s, hs₁, hs₂, pc, pos, hacc, hreach⟩ := Program.search_sound _ h
  exact ⟨s, pos, hs₁, hs₂, by simpa [Expr.compile] using traverse_of_reaches hacc hreach⟩

end Expr

end Highlight.Regex
