import Highlight.Proofs.Machine

/-!
# Compiled fragments

`Program.compile r k p` appends to the instructions `p` a fragment for `r` that goes on to the
instruction `k` when it is done, and answers the fragment's entry.  Two facts about it carry the
search's correctness:

* the program only grows: what was there stays, and no `accept` is added (`Program.Grows`);
* every run from the entry that ends before the fragment first leaves it through `k`, having
  traversed `r` on the way (`Program.Exits`, `Program.exits_compile`).

The second is proved fragment by fragment, over the shape of the expression; a repetition's
loop by induction on the length of the run, since each round passes its `split` once more.  What
each kind of fragment lays out in a program that keeps it (`Program.layout_alt`,
`Program.layout_loop`, …) is read once, for this proof and for its converse.
-/

namespace Highlight.Regex

namespace Program

/-- `q` extends `p`: it keeps `p`'s instructions and adds no `accept`. -/
structure Grows (p q : Array Inst) : Prop where
  size_le : p.size ≤ q.size
  keep : ∀ i < p.size, q[i]? = p[i]?
  noAccept : ∀ i, p.size ≤ i → q[i]? ≠ some .accept

namespace Grows

theorem refl (p : Array Inst) : Grows p p :=
  ⟨Nat.le_refl _, fun _ _ => rfl, fun _ hi h => by
    rw [Array.getElem?_eq_none hi] at h
    cases h⟩

theorem trans {p q r : Array Inst} (h₁ : Grows p q) (h₂ : Grows q r) : Grows p r := by
  refine ⟨Nat.le_trans h₁.size_le h₂.size_le, fun i hi => ?_, fun i hi => ?_⟩
  · rw [h₂.keep i (Nat.lt_of_lt_of_le hi h₁.size_le), h₁.keep i hi]
  · by_cases hq : i < q.size
    · rw [h₂.keep i hq]
      exact h₁.noAccept i hi
    · exact h₂.noAccept i (by omega)

theorem push {p q : Array Inst} (h : Grows p q) {inst : Inst} (hinst : inst ≠ .accept) :
    Grows p (q.push inst) := by
  refine h.trans ⟨by simp, fun i hi => by rw [Array.getElem?_push, if_neg (by omega)],
    fun i hi => ?_⟩
  rw [Array.getElem?_push]
  split
  · simpa using hinst
  · rw [Array.getElem?_eq_none hi]
    simp

theorem setIfInBounds {p q : Array Inst} (h : Grows p q) {l : Nat} (hl : p.size ≤ l) {inst : Inst}
    (hinst : inst ≠ .accept) : Grows p (q.setIfInBounds l inst) := by
  refine ⟨by simpa using h.size_le, fun i hi => ?_, fun i hi => ?_⟩
  · rw [Array.getElem?_setIfInBounds_ne (by omega), h.keep i hi]
  · rw [Array.getElem?_setIfInBounds]
    split
    · split
      · simpa using hinst
      · simp
    · exact h.noAccept i hi

end Grows

theorem choice_ne_accept (greedy : Bool) (a b : Nat) : choice greedy a b ≠ .accept := by
  cases greedy <;> simp [choice]

/-- A builder of fragments: what it appends keeps the program, and its entry lies in the
program once the instruction it goes on to does. -/
def Builds (f : Nat → Array Inst → Array Inst × Nat) : Prop :=
  ∀ {k : Nat} {p q : Array Inst} {e : Nat}, f k p = (q, e) → Grows p q ∧ (k < p.size → e < q.size)

theorem builds_copies {f : Nat → Array Inst → Array Inst × Nat} (hf : Builds f) :
    ∀ n, Builds (copies f n)
  | 0, k, p, q, e, h => by
    simp only [copies, Prod.mk.injEq] at h
    obtain ⟨rfl, rfl⟩ := h
    exact ⟨.refl p, id⟩
  | n + 1, k, p, q, e, h => by
    simp only [copies] at h
    rcases hp : f k p with ⟨p₁, e₁⟩
    rw [hp] at h
    obtain ⟨g₁, he₁⟩ := hf hp
    obtain ⟨g₂, he₂⟩ := builds_copies hf n h
    exact ⟨g₁.trans g₂, fun hk => he₂ (he₁ hk)⟩

theorem builds_optionalsTo {f : Nat → Array Inst → Array Inst × Nat} (hf : Builds f)
    (greedy : Bool) : ∀ n, Builds (compile.optionalsTo greedy f n)
  | 0, k, p, q, e, h => by
    simp only [compile.optionalsTo, Prod.mk.injEq] at h
    obtain ⟨rfl, rfl⟩ := h
    exact ⟨.refl p, id⟩
  | n + 1, k, p, q, e, h => by
    simp only [compile.optionalsTo] at h
    rcases hp : compile.optionalsTo greedy f n k p with ⟨p₁, inner⟩
    rcases hb : f inner p₁ with ⟨p₂, e₂⟩
    simp only [hp, hb, emit, Prod.mk.injEq] at h
    obtain ⟨rfl, rfl⟩ := h
    obtain ⟨g₁, -⟩ := builds_optionalsTo hf greedy n hp
    obtain ⟨g₂, -⟩ := hf hb
    have g₃ := (g₁.trans g₂).push (by simp : Inst.jump 0 ≠ .accept)
    refine ⟨g₃.setIfInBounds (by have := g₁.size_le; have := g₂.size_le; omega)
      (choice_ne_accept _ _ _), fun _ => by simp⟩

theorem builds_rep {r : Expr} (hr : Builds (compile r)) (lo : Nat) (hi : Option Nat)
    (greedy : Bool) : Builds (compile (.rep lo hi greedy r)) := by
  intro k p q e h
  cases hi with
  | some m =>
    simp only [compile] at h
    rcases ho : compile.optionalsTo greedy (fun k p => compile r k p) (m - lo) k p with ⟨p₁, e₁⟩
    rw [ho] at h
    obtain ⟨g₁, he₁⟩ := builds_optionalsTo hr greedy _ ho
    obtain ⟨g₂, he₂⟩ := builds_copies hr lo h
    exact ⟨g₁.trans g₂, fun hk => he₂ (he₁ hk)⟩
  | none =>
    rcases hb : compile r p.size (p.push (.jump 0)) with ⟨p₂, e₂⟩
    obtain ⟨g₂, he₂⟩ := hr hb
    have g₃ : Grows p (p₂.setIfInBounds p.size (choice greedy e₂ k)) :=
      (((Grows.refl p).push (by simp)).trans g₂).setIfInBounds (Nat.le_refl _)
        (choice_ne_accept _ _ _)
    have hsize : p.size < p₂.size := by have := g₂.size_le; simp at this; omega
    cases lo with
    | zero =>
      simp only [compile, emit, hb] at h
      -- a body that always reads loops on one `split`, any other on two
      have hloop : Grows p (p₂.setIfInBounds p.size (choice greedy e₂ k)) ∧ p.size < p₂.size := by
        simpa using ⟨g₃, hsize⟩
      have htwo : Grows p ((p₂.setIfInBounds p.size (choice greedy e₂ k)).push (choice greedy e₂ k)) :=
        g₃.push (choice_ne_accept _ _ _)
      cases hm : r.minLen with
      | none =>
        simp only [hm, Bool.false_eq_true, if_false, Prod.mk.injEq] at h
        obtain ⟨rfl, rfl⟩ := h
        exact ⟨htwo, fun _ => by simp⟩
      | some n =>
        simp only [hm] at h
        by_cases hn : n > 0
        · simp only [hn, decide_true, if_true, Prod.mk.injEq] at h
          obtain ⟨rfl, rfl⟩ := h
          exact ⟨hloop.1, fun _ => by simpa using hloop.2⟩
        · simp only [hn, decide_false, Bool.false_eq_true, if_false, Prod.mk.injEq] at h
          obtain ⟨rfl, rfl⟩ := h
          exact ⟨htwo, fun _ => by simp⟩
    | succ n =>
      simp only [compile, emit, hb] at h
      obtain ⟨g₄, he₄⟩ := builds_copies hr n h
      exact ⟨g₃.trans g₄, fun _ => he₄ (by simpa using he₂ (by simp))⟩

/-- **Compiling only appends**, and the entry of a fragment lies in the program. -/
theorem builds_compile : ∀ r : Expr, Builds (compile r)
  | .empty, k, p, q, e, h => by
    simp only [compile, Prod.mk.injEq] at h
    obtain ⟨rfl, rfl⟩ := h
    exact ⟨.refl p, id⟩
  | .set c, k, p, q, e, h => by
    simp only [compile, emit, Prod.mk.injEq] at h
    obtain ⟨rfl, rfl⟩ := h
    exact ⟨(Grows.refl p).push (by simp), fun _ => by simp⟩
  | .look l, k, p, q, e, h => by
    simp only [compile, emit, Prod.mk.injEq] at h
    obtain ⟨rfl, rfl⟩ := h
    exact ⟨(Grows.refl p).push (by simp), fun _ => by simp⟩
  | .cat a b, k, p, q, e, h => by
    simp only [compile] at h
    rcases hb : compile b k p with ⟨p₁, e₁⟩
    rw [hb] at h
    obtain ⟨g₁, he₁⟩ := builds_compile b hb
    obtain ⟨g₂, he₂⟩ := builds_compile a h
    exact ⟨g₁.trans g₂, fun hk => he₂ (he₁ hk)⟩
  | .alt a b, k, p, q, e, h => by
    simp only [compile] at h
    rcases ha : compile a k p with ⟨p₁, e₁⟩
    rcases hb : compile b k p₁ with ⟨p₂, e₂⟩
    simp only [ha, hb, emit, Prod.mk.injEq] at h
    obtain ⟨rfl, rfl⟩ := h
    obtain ⟨g₁, -⟩ := builds_compile a ha
    obtain ⟨g₂, -⟩ := builds_compile b hb
    exact ⟨(g₁.trans g₂).push (by simp), fun _ => by simp⟩
  | .capture i r, k, p, q, e, h => by
    simp only [compile, emit] at h
    rcases hr : compile r p.size (p.push (.save (2 * i + 1) k)) with ⟨p₂, e₂⟩
    simp only [hr, Prod.mk.injEq] at h
    obtain ⟨rfl, rfl⟩ := h
    obtain ⟨g₂, -⟩ := builds_compile r hr
    exact ⟨(((Grows.refl p).push (by simp)).trans g₂).push (by simp), fun _ => by simp⟩
  | .rep lo hi greedy r, _, _, _, _, h => builds_rep (builds_compile r) lo hi greedy h

section Exits

variable (insts : Array Inst) (cs : Array Char)

/-- Every run of `insts` from `e` that ends on an instruction below `lo` first passes through
`k`, after a stretch that `R` relates, and goes on from there in no more steps. -/
def Exits (R : Nat → Array (Option Nat) → Nat → Array (Option Nat) → Prop) (k lo e : Nat) :
    Prop :=
  ∀ n i σ d, Steps insts cs n ⟨e, i, σ⟩ d → d.pc < lo →
    ∃ m ≤ n, ∃ j τ, R i σ j τ ∧ Steps insts cs m ⟨k, j, τ⟩ d

/-- `insts` holds the instructions that `q` added to `p`. -/
def Agrees (p q : Array Inst) : Prop := ∀ i, p.size ≤ i → i < q.size → insts[i]? = q[i]?

end Exits

section

variable {insts : Array Inst} {cs : Array Char}
  {R R' : Nat → Array (Option Nat) → Nat → Array (Option Nat) → Prop}

theorem Agrees.restrict {p p₁ q : Array Inst} (h : Agrees insts p q) (hp : p.size ≤ p₁.size) :
    Agrees insts p₁ q :=
  fun i hi hq => h i (by omega) hq

theorem Agrees.of_grows {p q q₁ : Array Inst} (h : Agrees insts p q) (g : Grows q₁ q) :
    Agrees insts p q₁ :=
  fun i hi hq => by rw [h i hi (Nat.lt_of_lt_of_le hq g.size_le), g.keep i hq]

/-! ### What a fragment lays out

The instructions that the fragment of each kind of expression puts into a program that keeps
them, read once here for both directions of the search's correctness (`exits_compile` and the
converse). -/

theorem layout_set {c : CharClass} {k : Nat} {p q : Array Inst} {e : Nat}
    (h : compile (.set c) k p = (q, e)) (hag : Agrees insts p q) :
    e = p.size ∧ insts[e]? = some (.char c.ranges.toArray k) := by
  simp only [compile, emit, Prod.mk.injEq] at h
  obtain ⟨rfl, rfl⟩ := h
  refine ⟨rfl, ?_⟩
  rw [hag p.size (Nat.le_refl _) (by simp)]
  simp

theorem layout_look {l : Look} {k : Nat} {p q : Array Inst} {e : Nat}
    (h : compile (.look l) k p = (q, e)) (hag : Agrees insts p q) :
    e = p.size ∧ insts[e]? = some (.assert l k) := by
  simp only [compile, emit, Prod.mk.injEq] at h
  obtain ⟨rfl, rfl⟩ := h
  refine ⟨rfl, ?_⟩
  rw [hag p.size (Nat.le_refl _) (by simp)]
  simp

theorem layout_cat {a b : Expr} {k : Nat} {p q : Array Inst} {e : Nat}
    (h : compile (.cat a b) k p = (q, e)) (hk : k < p.size) (hag : Agrees insts p q) :
    ∃ p₁ e₁, compile b k p = (p₁, e₁) ∧ compile a e₁ p₁ = (q, e) ∧ p.size ≤ p₁.size ∧
      e₁ < p₁.size ∧ Agrees insts p p₁ ∧ Agrees insts p₁ q := by
  simp only [compile] at h
  rcases hb : compile b k p with ⟨p₁, e₁⟩
  rw [hb] at h
  obtain ⟨g₁, he₁⟩ := builds_compile b hb
  obtain ⟨g₂, -⟩ := builds_compile a h
  exact ⟨p₁, e₁, rfl, h, g₁.size_le, he₁ hk, hag.of_grows g₂, hag.restrict g₁.size_le⟩

theorem layout_alt {a b : Expr} {k : Nat} {p q : Array Inst} {e : Nat}
    (h : compile (.alt a b) k p = (q, e)) (hag : Agrees insts p q) :
    ∃ p₁ e₁ p₂ e₂, compile a k p = (p₁, e₁) ∧ compile b k p₁ = (p₂, e₂) ∧ e = p₂.size ∧
      p.size ≤ p₁.size ∧ p₁.size ≤ p₂.size ∧ Agrees insts p p₁ ∧ Agrees insts p₁ p₂ ∧
      insts[e]? = some (choice true e₁ e₂) := by
  simp only [compile] at h
  rcases ha : compile a k p with ⟨p₁, e₁⟩
  rcases hb : compile b k p₁ with ⟨p₂, e₂⟩
  simp only [ha, hb, emit, Prod.mk.injEq] at h
  obtain ⟨rfl, rfl⟩ := h
  obtain ⟨g₁, -⟩ := builds_compile a ha
  obtain ⟨g₂, -⟩ := builds_compile b hb
  have g₃ : Grows p₂ (p₂.push (.split e₁ e₂)) := (Grows.refl p₂).push (by simp)
  refine ⟨p₁, e₁, p₂, e₂, rfl, hb, rfl, g₁.size_le, g₂.size_le, hag.of_grows (g₂.trans g₃),
    (hag.restrict g₁.size_le).of_grows g₃, ?_⟩
  rw [hag p₂.size (Nat.le_trans g₁.size_le g₂.size_le) (by simp)]
  simp [choice]

theorem layout_capture {n : Nat} {r : Expr} {k : Nat} {p q : Array Inst} {e : Nat}
    (h : compile (.capture n r) k p = (q, e)) (hag : Agrees insts p q) :
    ∃ p₂ e₂, compile r p.size (p.push (.save (2 * n + 1) k)) = (p₂, e₂) ∧ e = p₂.size ∧
      p.size < p₂.size ∧ Agrees insts (p.push (.save (2 * n + 1) k)) p₂ ∧
      insts[p.size]? = some (.save (2 * n + 1) k) ∧ insts[e]? = some (.save (2 * n) e₂) := by
  simp only [compile, emit] at h
  rcases hb : compile r p.size (p.push (.save (2 * n + 1) k)) with ⟨p₂, e₂⟩
  simp only [hb, Prod.mk.injEq] at h
  obtain ⟨rfl, rfl⟩ := h
  obtain ⟨g₂, -⟩ := builds_compile r hb
  have g₃ : Grows p₂ (p₂.push (.save (2 * n) e₂)) := (Grows.refl p₂).push (by simp)
  have hsize : p.size < p₂.size := by have := g₂.size_le; simp at this; omega
  refine ⟨p₂, e₂, rfl, rfl, hsize, (hag.restrict (by simp)).of_grows g₃, ?_, ?_⟩
  · rw [hag p.size (Nat.le_refl _) (by simp; omega), g₃.keep p.size hsize,
      g₂.keep p.size (by simp)]
    simp
  · rw [hag p₂.size (by omega) (by simp)]
    simp

theorem layout_loop {lo : Nat} {greedy : Bool} {r : Expr} {k : Nat} {p q : Array Inst} {e : Nat}
    (h : compile (.rep lo none greedy r) k p = (q, e)) (hag : Agrees insts p q) :
    ∃ p₂ e₂, compile r p.size (p.push (.jump 0)) = (p₂, e₂) ∧ p.size < p₂.size ∧ e₂ < p₂.size ∧
      Agrees insts (p.push (.jump 0)) p₂ ∧ insts[p.size]? = some (choice greedy e₂ k) ∧
      (lo = 0 ∧ e = p.size ∨
        lo = 0 ∧ e = p₂.size ∧ insts[p₂.size]? = some (choice greedy e₂ k) ∨
        ∃ m, lo = m + 1 ∧ copies (fun k p => compile r k p) m e₂
          (p₂.setIfInBounds p.size (choice greedy e₂ k)) = (q, e)) := by
  rcases hb : compile r p.size (p.push (.jump 0)) with ⟨p₂, e₂⟩
  obtain ⟨g₂, he₂⟩ := builds_compile r hb
  have hsize : p.size < p₂.size := by have := g₂.size_le; simp at this; omega
  have he₂' : e₂ < p₂.size := by simpa using he₂ (by simp)
  have hkeep : Grows (p₂.setIfInBounds p.size (choice greedy e₂ k)) q →
      Agrees insts (p.push (.jump 0)) p₂ ∧ insts[p.size]? = some (choice greedy e₂ k) := by
    intro g₄
    have hq : p₂.size ≤ q.size := by simpa using g₄.size_le
    refine ⟨fun i hi hi₂ => ?_, ?_⟩
    · simp only [Array.size_push] at hi
      rw [hag i (by omega) (by omega), g₄.keep i (by simpa using hi₂),
        Array.getElem?_setIfInBounds_ne (by omega)]
    · rw [hag p.size (Nat.le_refl _) (by omega), g₄.keep p.size (by simpa using hsize),
        Array.getElem?_setIfInBounds_self_of_lt hsize]
  -- a body that may read nothing is entered at a copy of the `split` after the loop
  have htwo : q = (p₂.setIfInBounds p.size (choice greedy e₂ k)).push (choice greedy e₂ k) →
      e = (p₂.setIfInBounds p.size (choice greedy e₂ k)).size →
      Agrees insts (p.push (.jump 0)) p₂ ∧ insts[p.size]? = some (choice greedy e₂ k) ∧
        e = p₂.size ∧ insts[p₂.size]? = some (choice greedy e₂ k) := by
    rintro rfl rfl
    refine ⟨(hkeep ((Grows.refl _).push (choice_ne_accept _ _ _))).1,
      (hkeep ((Grows.refl _).push (choice_ne_accept _ _ _))).2, by simp, ?_⟩
    rw [hag p₂.size (by omega) (by simp), Array.getElem?_push]
    simp
  cases lo with
  | zero =>
    simp only [compile, emit, hb] at h
    cases hm : r.minLen with
    | none =>
      simp only [hm, Bool.false_eq_true, if_false, Prod.mk.injEq] at h
      obtain ⟨hagree, hinst, he, hinst₂⟩ := htwo h.1.symm h.2.symm
      exact ⟨p₂, e₂, rfl, hsize, he₂', hagree, hinst, .inr (.inl ⟨rfl, he, hinst₂⟩)⟩
    | some n =>
      simp only [hm] at h
      by_cases hn : n > 0
      · simp only [hn, decide_true, if_true, Prod.mk.injEq] at h
        obtain ⟨rfl, rfl⟩ := h
        obtain ⟨hagree, hinst⟩ := hkeep (.refl _)
        exact ⟨p₂, e₂, rfl, hsize, he₂', hagree, hinst, .inl ⟨rfl, rfl⟩⟩
      · simp only [hn, decide_false, Bool.false_eq_true, if_false, Prod.mk.injEq] at h
        obtain ⟨hagree, hinst, he, hinst₂⟩ := htwo h.1.symm h.2.symm
        exact ⟨p₂, e₂, rfl, hsize, he₂', hagree, hinst, .inr (.inl ⟨rfl, he, hinst₂⟩)⟩
  | succ m =>
    simp only [compile, emit, hb] at h
    obtain ⟨g₄, -⟩ := builds_copies (builds_compile r) m h
    obtain ⟨hagree, hinst⟩ := hkeep g₄
    exact ⟨p₂, e₂, rfl, hsize, he₂', hagree, hinst, .inr (.inr ⟨m, rfl, h⟩)⟩

theorem step_choice_iff {greedy : Bool} {a b : Nat} {c d : Config}
    (h : insts[c.pc]? = some (choice greedy a b)) :
    Step insts cs c d ↔ d = ⟨a, c.pos, c.slots⟩ ∨ d = ⟨b, c.pos, c.slots⟩ := by
  cases greedy <;> simp [Step, choice, h, or_comm]

theorem Exits.refl {k lo : Nat} (hR : ∀ i σ, R i σ i σ) : Exits insts cs R k lo k :=
  fun n i σ _ hs _ => ⟨n, Nat.le_refl _, i, σ, hR i σ, hs⟩

theorem Exits.mono {k lo lo' e : Nat} (h : Exits insts cs R k lo e)
    (hR : ∀ i σ j τ, R i σ j τ → R' i σ j τ) (hlo : lo' ≤ lo) : Exits insts cs R' k lo' e := by
  intro n i σ d hs hd
  obtain ⟨m, hm, j, τ, hr, rest⟩ := h n i σ d hs (by omega)
  exact ⟨m, hm, j, τ, hR i σ j τ hr, rest⟩

theorem Exits.trans {R₁ R₂ : Nat → Array (Option Nat) → Nat → Array (Option Nat) → Prop}
    {k₁ k lo e : Nat} (h₁ : Exits insts cs R₁ k₁ lo e) (h₂ : Exits insts cs R₂ k lo k₁) :
    Exits insts cs (fun i σ j τ => ∃ m ρ, R₁ i σ m ρ ∧ R₂ m ρ j τ) k lo e := by
  intro n i σ d hs hd
  obtain ⟨m₁, hm₁, j₁, ρ, hr₁, rest₁⟩ := h₁ n i σ d hs hd
  obtain ⟨m₂, hm₂, j₂, τ, hr₂, rest₂⟩ := h₂ m₁ j₁ ρ d rest₁ hd
  exact ⟨m₂, by omega, j₂, τ, ⟨j₁, ρ, hr₁, hr₂⟩, rest₂⟩

theorem exits_of_first {k lo e : Nat} (he : lo ≤ e)
    (h : ∀ n i σ c d, Step insts cs ⟨e, i, σ⟩ c → Steps insts cs n c d → d.pc < lo →
      ∃ m ≤ n, ∃ j τ, R i σ j τ ∧ Steps insts cs m ⟨k, j, τ⟩ d) :
    Exits insts cs R k lo e := by
  intro n i σ d hs hd
  cases n with
  | zero =>
    have := hs.eq_of_zero
    subst this
    simp at hd
    omega
  | succ n =>
    obtain ⟨c, hstep, rest⟩ := steps_succ_iff.1 hs
    obtain ⟨m, hm, rest'⟩ := h n i σ c d hstep rest hd
    exact ⟨m, by omega, rest'⟩

theorem exits_of_step {k lo e : Nat} (he : lo ≤ e)
    (h : ∀ i σ d, Step insts cs ⟨e, i, σ⟩ d → ∃ j τ, R i σ j τ ∧ d = ⟨k, j, τ⟩) :
    Exits insts cs R k lo e :=
  exits_of_first he fun n i σ c _ hstep rest _ => by
    obtain ⟨j, τ, hr, rfl⟩ := h i σ c hstep
    exact ⟨n, Nat.le_refl _, j, τ, hr, rest⟩

theorem exits_choice {k lo e a b : Nat} {greedy : Bool} (he : lo ≤ e)
    (hinst : insts[e]? = some (choice greedy a b)) (ha : Exits insts cs R k lo a)
    (hb : Exits insts cs R k lo b) : Exits insts cs R k lo e :=
  exits_of_first he fun n i σ c d hstep rest hd => by
    rcases (step_choice_iff hinst).1 hstep with rfl | rfl
    · exact ha n i σ d rest hd
    · exact hb n i σ d rest hd

theorem exits_save {k lo e slot next : Nat} (he : lo ≤ e)
    (hinst : insts[e]? = some (.save slot next)) (h : Exits insts cs R k lo next) :
    Exits insts cs (fun i σ j τ => R i (σ.setIfInBounds slot (some i)) j τ) k lo e :=
  exits_of_first he fun n i σ c d hstep rest hd => by
    simp only [Step, hinst] at hstep
    subst hstep
    exact h n i _ d rest hd

/-- **A loop of a body.** Each round passes the loop's `split` once more, so an induction on the
length of the run takes as many rounds as the run does. -/
theorem exits_loop {r : Expr} {hi : Option Nat} {greedy greedy' : Bool} {k lo l e : Nat}
    (hl : lo ≤ l) (hinst : insts[l]? = some (choice greedy e k))
    (hbody : Exits insts cs (Expr.Traverse cs r) l lo e) :
    Exits insts cs (Expr.Traverse cs (.rep 0 hi greedy' r)) k lo l := by
  intro n
  induction n using Nat.strongRecOn with
  | _ n ih =>
    intro i σ d hs hd
    cases n with
    | zero =>
      have := hs.eq_of_zero
      subst this
      simp at hd
      omega
    | succ n =>
      obtain ⟨c, hstep, rest⟩ := steps_succ_iff.1 hs
      rcases (step_choice_iff hinst).1 hstep with rfl | rfl
      · -- one more round, then the loop again from where it ended
        obtain ⟨m₁, hm₁, j, ρ, hr, rest₁⟩ := hbody n i σ d rest hd
        obtain ⟨m₂, hm₂, j', τ, hrep, rest₂⟩ := ih m₁ (by omega) j ρ d rest₁ hd
        exact ⟨m₂, by omega, j', τ, .repMore hr hrep, rest₂⟩
      · exact ⟨n, by omega, i, σ, .repDone, rest⟩

section Rep

variable {r : Expr}
  (hr : ∀ {k : Nat} {p q : Array Inst} {e : Nat}, compile r k p = (q, e) → k < p.size →
    Agrees insts p q → Exits insts cs (Expr.Traverse cs r) k p.size e)
include hr

theorem exits_optionalsTo (hi : Option Nat) (greedy greedy' : Bool) :
    ∀ (n : Nat) {k : Nat} {p q : Array Inst} {e : Nat},
      compile.optionalsTo greedy (fun k p => compile r k p) n k p = (q, e) → k < p.size →
      Agrees insts p q → Exits insts cs (Expr.Traverse cs (.rep 0 hi greedy' r)) k p.size e
  | 0, k, p, q, e, h, _, _ => by
    simp only [compile.optionalsTo, Prod.mk.injEq] at h
    obtain ⟨rfl, rfl⟩ := h
    exact Exits.refl fun _ _ => .repDone
  | n + 1, k, p, q, e, h, hk, hag => by
    simp only [compile.optionalsTo] at h
    rcases ho : compile.optionalsTo greedy (fun k p => compile r k p) n k p with ⟨p₁, inner⟩
    rcases hb : compile r inner p₁ with ⟨p₂, e₂⟩
    simp only [ho, hb, emit, Prod.mk.injEq] at h
    obtain ⟨rfl, rfl⟩ := h
    obtain ⟨g₁, hin⟩ := builds_optionalsTo (builds_compile r) greedy n ho
    obtain ⟨g₂, -⟩ := builds_compile r hb
    have g₃ : Grows p₂ ((p₂.push (.jump 0)).setIfInBounds p₂.size (choice greedy e₂ k)) :=
      ((Grows.refl p₂).push (by simp)).setIfInBounds (Nat.le_refl _) (choice_ne_accept _ _ _)
    have hrest := exits_optionalsTo hi greedy greedy' n ho hk (hag.of_grows (g₂.trans g₃))
    have hbody := hr hb (hin hk) ((hag.restrict g₁.size_le).of_grows g₃)
    have hinst : insts[p₂.size]? = some (choice greedy e₂ k) := by
      rw [hag p₂.size (by have := g₁.size_le; have := g₂.size_le; omega) (by simp)]
      simp
    refine exits_choice (by have := g₁.size_le; have := g₂.size_le; omega) hinst ?_
      (Exits.refl fun _ _ => .repDone)
    exact ((hbody.mono (fun _ _ _ _ h => h) g₁.size_le).trans hrest).mono
      (fun _ _ _ _ h => Expr.Traverse.repMore_of_exists h) (Nat.le_refl _)

theorem exits_copies {hi : Option Nat} {greedy : Bool} :
    ∀ (n : Nat) {k : Nat} {p q : Array Inst} {e : Nat},
      copies (fun k p => compile r k p) n k p = (q, e) → k < p.size → Agrees insts p q →
      ∀ {m lo k' : Nat}, lo ≤ p.size → Exits insts cs (Expr.Traverse cs (.rep m hi greedy r)) k' lo k →
        Exits insts cs (Expr.Traverse cs (.rep (m + n) hi greedy r)) k' lo e
  | 0, k, p, q, e, h, _, _, m, lo, k', _, hafter => by
    simp only [copies, Prod.mk.injEq] at h
    obtain ⟨rfl, rfl⟩ := h
    simpa using hafter
  | n + 1, k, p, q, e, h, hk, hag, m, lo, k', hlo, hafter => by
    simp only [copies] at h
    rcases hb : compile r k p with ⟨p₁, e₁⟩
    rw [hb] at h
    obtain ⟨g₁, he₁⟩ := builds_compile r hb
    obtain ⟨g₂, -⟩ := builds_copies (builds_compile r) n h
    have hbody := hr hb hk (hag.of_grows g₂)
    have hone : Exits insts cs (Expr.Traverse cs (.rep (m + 1) hi greedy r)) k' lo e₁ :=
      ((hbody.mono (fun _ _ _ _ h => h) hlo).trans hafter).mono
        (fun _ _ _ _ h => Expr.Traverse.repMore_of_exists h) (Nat.le_refl _)
    have := exits_copies n h (he₁ hk) (hag.restrict g₁.size_le)
      (Nat.le_trans hlo g₁.size_le) hone
    rwa [Nat.add_right_comm, Nat.add_assoc] at this

theorem exits_rep (lo : Nat) (hi : Option Nat) (greedy : Bool) {k : Nat} {p q : Array Inst}
    {e : Nat} (h : compile (.rep lo hi greedy r) k p = (q, e)) (hk : k < p.size)
    (hag : Agrees insts p q) : Exits insts cs (Expr.Traverse cs (.rep lo hi greedy r)) k p.size e := by
  cases hi with
  | some m =>
    simp only [compile] at h
    rcases ho : compile.optionalsTo greedy (fun k p => compile r k p) (m - lo) k p with ⟨p₁, e₁⟩
    rw [ho] at h
    obtain ⟨g₁, he₁⟩ := builds_optionalsTo (builds_compile r) greedy _ ho
    obtain ⟨g₂, -⟩ := builds_copies (builds_compile r) lo h
    have hopt := exits_optionalsTo hr (some m) greedy greedy _ ho hk (hag.of_grows g₂)
    simpa using exits_copies hr lo h (he₁ hk) (hag.restrict g₁.size_le) g₁.size_le hopt
  | none =>
    obtain ⟨p₂, e₂, hb, hsize, he₂, hagree, hinst, hentry⟩ := layout_loop h hag
    have hbody : Exits insts cs (Expr.Traverse cs r) p.size p.size e₂ :=
      (hr hb (by simp) hagree).mono (fun _ _ _ _ h => h) (by simp)
    have hl : Exits insts cs (Expr.Traverse cs (.rep 0 none greedy r)) k p.size p.size :=
      exits_loop (Nat.le_refl _) hinst hbody
    rcases hentry with ⟨rfl, rfl⟩ | ⟨rfl, rfl, hinst₂⟩ | ⟨m, rfl, hcopies⟩
    · exact hl
    · -- the copy of the `split` goes on to a round and the loop, or out
      exact exits_choice (by omega) hinst₂
        ((hbody.trans hl).mono (fun _ _ _ _ h => Expr.Traverse.repMore_of_exists h) (Nat.le_refl _))
        (Exits.refl fun _ _ => .repDone)
    · have hone : Exits insts cs (Expr.Traverse cs (.rep 1 none greedy r)) k p.size e₂ :=
        (hbody.trans hl).mono (fun _ _ _ _ h => Expr.Traverse.repMore_of_exists h) (Nat.le_refl _)
      have := exits_copies hr m hcopies (by simpa using he₂) (hag.restrict (by simp; omega))
        (by simp; omega) hone
      rwa [Nat.add_comm] at this

end Rep

/-- **Every fragment leaves through its exit.** A run of the program from the entry of the
fragment for `r` that ends before the fragment traverses `r` and then goes on from `k`. -/
theorem exits_compile :
    ∀ (r : Expr) {k : Nat} {p q : Array Inst} {e : Nat}, compile r k p = (q, e) → k < p.size →
      Agrees insts p q → Exits insts cs (Expr.Traverse cs r) k p.size e
  | .empty, k, p, q, e, h, _, _ => by
    simp only [compile, Prod.mk.injEq] at h
    obtain ⟨rfl, rfl⟩ := h
    exact Exits.refl fun _ _ => .empty
  | .set c, k, p, q, e, h, _, hag => by
    obtain ⟨rfl, hinst⟩ := layout_set h hag
    refine exits_of_step (Nat.le_refl _) fun i σ d hstep => ?_
    simp only [Step, hinst] at hstep
    obtain ⟨ch, hch, hin, rfl⟩ := hstep
    exact ⟨i + 1, σ, .set hch hin, rfl⟩
  | .look l, k, p, q, e, h, _, hag => by
    obtain ⟨rfl, hinst⟩ := layout_look h hag
    refine exits_of_step (Nat.le_refl _) fun i σ d hstep => ?_
    simp only [Step, hinst] at hstep
    obtain ⟨hl, rfl⟩ := hstep
    exact ⟨i, σ, .look hl, rfl⟩
  | .cat a b, k, p, q, e, h, hk, hag => by
    obtain ⟨p₁, e₁, hb, ha, hle, he₁, hag₁, hag₂⟩ := layout_cat h hk hag
    have hexb := exits_compile b hb hk hag₁
    have hexa := exits_compile a ha he₁ hag₂
    exact ((hexa.mono (fun _ _ _ _ h => h) hle).trans hexb).mono
      (fun _ _ _ _ h => Expr.Traverse.cat_of_exists h) (Nat.le_refl _)
  | .alt a b, k, p, q, e, h, hk, hag => by
    obtain ⟨p₁, e₁, p₂, e₂, ha, hb, rfl, hle₁, hle₂, hag₁, hag₂, hinst⟩ := layout_alt h hag
    have hexa := exits_compile a ha hk hag₁
    have hexb := exits_compile b hb (Nat.lt_of_lt_of_le hk hle₁) hag₂
    exact exits_choice (Nat.le_trans hle₁ hle₂) hinst
      (hexa.mono (fun _ _ _ _ => .altLeft) (Nat.le_refl _))
      (hexb.mono (fun _ _ _ _ => .altRight) hle₁)
  | .capture n r, k, p, q, e, h, hk, hag => by
    obtain ⟨p₂, e₂, hb, rfl, hsize, hagree, hclose, hopen⟩ := layout_capture h hag
    have hexr := exits_compile r hb (by simp) hagree
    have hexclose : Exits insts cs (fun j τ j' τ' => j' = j ∧ τ' = τ.setIfInBounds (2 * n + 1) (some j))
        k p.size p.size :=
      exits_of_step (Nat.le_refl _) fun j τ d hstep => by
        simp only [Step, hclose] at hstep
        exact ⟨j, τ.setIfInBounds (2 * n + 1) (some j), ⟨rfl, rfl⟩, hstep⟩
    exact (exits_save (by omega) hopen ((hexr.mono (fun _ _ _ _ h => h) (by simp)).trans
      hexclose)).mono (fun _ _ _ _ h => by
        obtain ⟨_, _, h₁, rfl, rfl⟩ := h
        exact .capture h₁) (Nat.le_refl _)
  | .rep lo hi greedy r, _, _, _, _, h, hk, hag => exits_rep (exits_compile r) lo hi greedy h hk hag

end

end Program

end Highlight.Regex
