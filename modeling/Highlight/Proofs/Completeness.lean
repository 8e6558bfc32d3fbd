import Highlight.Proofs.Fragment
import Highlight.Proofs.FirstMatch
import Highlight.Proofs.AsciiClasses

/-!
# The search misses no match

`Program.exits_compile` reads every run of a compiled fragment as a traversal of its expression.
This module proves the converse for expressions whose repetitions have no upper bound
(`Expr.unbounded`): every traversal of the expression is a run of its fragment, from the
fragment's entry to the instruction it goes on to (`Program.enters_compile`).  A bounded
repetition is left out because `Expr.Traverse` does not hold its rounds to the bound.

* `Expr.pick_some_of_traverse`: where the expression can be traversed from a position, a chain of
  steps reaches `accept` from there, so the depth-first search answers something;
* `Expr.search_eq_of_unique`: what it answers is a traversal, so where the expression has a
  single traversal from the first position that has any, the search answers that one.

Patterns are mostly literal words and alternations of them: `Expr.literal` and `Expr.alts` read
them back as characters and as a choice among their members (`Expr.traverse_literal_iff`,
`Expr.traverse_alts_iff`).
-/

namespace Highlight.Regex

/-- Whether every repetition of the expression is unbounded above. -/
def Expr.unbounded : Expr → Bool
  | .empty | .set _ | .look _ => true
  | .cat a b | .alt a b => a.unbounded && b.unbounded
  | .capture _ r => r.unbounded
  | .rep _ hi _ r => hi.isNone && r.unbounded

namespace Program

section

variable {insts : Array Inst} {cs : Array Char}

theorem Reaches.head {c d e : Config} (hs : Step insts cs c d) (h : Reaches insts cs d e) :
    Reaches insts cs c e := by
  obtain ⟨n, h⟩ := h
  exact ⟨n + 1, .step hs h⟩

theorem Reaches.trans {c d e : Config} (h₁ : Reaches insts cs c d) (h₂ : Reaches insts cs d e) :
    Reaches insts cs c e := by
  obtain ⟨m, h₁⟩ := h₁
  obtain ⟨n, h₂⟩ := h₂
  exact ⟨m + n, h₁.trans h₂⟩

end

/-- Every stretch that `R` relates is run by `insts` from the entry `e` to the instruction `k`. -/
def Enters (insts : Array Inst) (cs : Array Char)
    (R : Nat → Array (Option Nat) → Nat → Array (Option Nat) → Prop) (k e : Nat) : Prop :=
  ∀ i σ j τ, R i σ j τ → Reaches insts cs ⟨e, i, σ⟩ ⟨k, j, τ⟩

section

variable {insts : Array Inst} {cs : Array Char}

theorem reaches_choice {greedy : Bool} {l a b pos : Nat} {σ : Array (Option Nat)} {d : Config}
    (hinst : insts[l]? = some (choice greedy a b))
    (h : Reaches insts cs ⟨a, pos, σ⟩ d ∨ Reaches insts cs ⟨b, pos, σ⟩ d) :
    Reaches insts cs ⟨l, pos, σ⟩ d := by
  rcases h with h | h
  · exact Reaches.head ((step_choice_iff hinst).2 (.inl rfl)) h
  · exact Reaches.head ((step_choice_iff hinst).2 (.inr rfl)) h

/-- **A loop, entered.**  Every traversal of a repetition with no rounds it must take is a run
through the loop's `split`: one round of the body for each round of the traversal, then out. -/
theorem enters_loop {r : Expr} {hi : Option Nat} {greedy greedy' : Bool} {k l e : Nat}
    (hinst : insts[l]? = some (choice greedy e k)) (hbody : Enters insts cs (Expr.Traverse cs r) l e) :
    Enters insts cs (Expr.Traverse cs (.rep 0 hi greedy' r)) k l := by
  intro i σ j τ h
  generalize hx : Expr.rep 0 hi greedy' r = x at h
  induction h with
  | repDone =>
    exact reaches_choice hinst (.inr (Reaches.refl _))
  | repMore hround _ _ ihrest =>
    cases hx
    exact reaches_choice hinst (.inl ((hbody _ _ _ _ hround).trans (ihrest rfl)))
  | _ => cases hx

section Rep

variable {r : Expr}
  (hr : ∀ {k : Nat} {p q : Array Inst} {e : Nat}, compile r k p = (q, e) → k < p.size →
    Agrees insts p q → Enters insts cs (Expr.Traverse cs r) k e)
include hr

theorem enters_copies {hi : Option Nat} {greedy : Bool} :
    ∀ (n : Nat) {k : Nat} {p q : Array Inst} {e : Nat},
      copies (fun k p => compile r k p) n k p = (q, e) → k < p.size → Agrees insts p q →
      ∀ {m k' : Nat}, Enters insts cs (Expr.Traverse cs (.rep m hi greedy r)) k' k →
        Enters insts cs (Expr.Traverse cs (.rep (m + n) hi greedy r)) k' e
  | 0, k, p, q, e, h, _, _, m, k', hafter => by
    simp only [copies, Prod.mk.injEq] at h
    obtain ⟨rfl, rfl⟩ := h
    simpa using hafter
  | n + 1, k, p, q, e, h, hk, hag, m, k', hafter => by
    simp only [copies] at h
    rcases hb : compile r k p with ⟨p₁, e₁⟩
    rw [hb] at h
    obtain ⟨g₁, he₁⟩ := builds_compile r hb
    obtain ⟨g₂, -⟩ := builds_copies (builds_compile r) n h
    have hbody := hr hb hk (hag.of_grows g₂)
    have hone : Enters insts cs (Expr.Traverse cs (.rep (m + 1) hi greedy r)) k' e₁ := by
      intro i σ j τ htr
      cases htr with
      | repMore hround hrest =>
        exact (hbody _ _ _ _ hround).trans (hafter _ _ _ _ (by simpa using hrest))
    have := enters_copies n h (he₁ hk) (hag.restrict g₁.size_le) hone
    rwa [Nat.add_right_comm, Nat.add_assoc] at this

theorem enters_rep (lo : Nat) (greedy : Bool) {k : Nat} {p q : Array Inst} {e : Nat}
    (h : compile (.rep lo none greedy r) k p = (q, e)) (hag : Agrees insts p q) :
    Enters insts cs (Expr.Traverse cs (.rep lo none greedy r)) k e := by
  obtain ⟨p₂, e₂, hb, hsize, he₂, hagree, hinst, hentry⟩ := layout_loop h hag
  have hbody : Enters insts cs (Expr.Traverse cs r) p.size e₂ := hr hb (by simp) hagree
  have hl : Enters insts cs (Expr.Traverse cs (.rep 0 none greedy r)) k p.size :=
    enters_loop hinst hbody
  rcases hentry with ⟨rfl, rfl⟩ | ⟨rfl, rfl, hinst₂⟩ | ⟨m, rfl, hcopies⟩
  · exact hl
  · -- a body that may read nothing is entered at the copy of the `split`
    intro i σ j τ htr
    cases htr with
    | repDone => exact reaches_choice hinst₂ (.inr (Reaches.refl _))
    | repMore hround hrest =>
      exact reaches_choice hinst₂ (.inl ((hbody _ _ _ _ hround).trans (hl _ _ _ _ hrest)))
  · have hone : Enters insts cs (Expr.Traverse cs (.rep 1 none greedy r)) k e₂ := by
      intro i σ j τ htr
      cases htr with
      | repMore hround hrest => exact (hbody _ _ _ _ hround).trans (hl _ _ _ _ hrest)
    have := enters_copies hr m hcopies (by simpa using he₂) (hag.restrict (by simp; omega)) hone
    rwa [Nat.add_comm] at this

end Rep

/-- **Every traversal is a run of the fragment.**  For an expression with no bounded repetition,
each traversal of `r` is a run of its fragment from the entry to the instruction `k` it goes on
to. -/
theorem enters_compile :
    ∀ (r : Expr), r.unbounded = true → ∀ {k : Nat} {p q : Array Inst} {e : Nat},
      compile r k p = (q, e) → k < p.size → Agrees insts p q → Enters insts cs (Expr.Traverse cs r) k e
  | .empty, _, k, p, q, e, h, _, _ => by
    simp only [compile, Prod.mk.injEq] at h
    obtain ⟨rfl, rfl⟩ := h
    intro i σ j τ htr
    cases htr
    exact Reaches.refl _
  | .set c, _, k, p, q, e, h, _, hag => by
    obtain ⟨rfl, hinst⟩ := layout_set h hag
    intro i σ j τ htr
    cases htr with
    | set hch hin => exact Reaches.head (by simp [Step, hinst, hch, hin]) (Reaches.refl _)
  | .look l, _, k, p, q, e, h, _, hag => by
    obtain ⟨rfl, hinst⟩ := layout_look h hag
    intro i σ j τ htr
    cases htr with
    | look hl => exact Reaches.head (by simp [Step, hinst, hl]) (Reaches.refl _)
  | .cat a b, hu, k, p, q, e, h, hk, hag => by
    simp only [Expr.unbounded, Bool.and_eq_true] at hu
    obtain ⟨p₁, e₁, hb, ha, -, he₁, hag₁, hag₂⟩ := layout_cat h hk hag
    have henb := enters_compile b hu.2 hb hk hag₁
    have hena := enters_compile a hu.1 ha he₁ hag₂
    intro i σ j τ htr
    cases htr with
    | cat ha hb' => exact (hena _ _ _ _ ha).trans (henb _ _ _ _ hb')
  | .alt a b, hu, k, p, q, e, h, hk, hag => by
    simp only [Expr.unbounded, Bool.and_eq_true] at hu
    obtain ⟨p₁, e₁, p₂, e₂, ha, hb, rfl, hle₁, -, hag₁, hag₂, hinst⟩ := layout_alt h hag
    have hena := enters_compile a hu.1 ha hk hag₁
    have henb := enters_compile b hu.2 hb (Nat.lt_of_lt_of_le hk hle₁) hag₂
    intro i σ j τ htr
    cases htr with
    | altLeft ha' => exact reaches_choice hinst (.inl (hena _ _ _ _ ha'))
    | altRight hb' => exact reaches_choice hinst (.inr (henb _ _ _ _ hb'))
  | .capture n r, hu, k, p, q, e, h, hk, hag => by
    obtain ⟨p₂, e₂, hb, rfl, -, hagree, hclose, hopen⟩ := layout_capture h hag
    have henr := enters_compile r hu hb (by simp) hagree
    intro i σ j τ htr
    cases htr with
    | capture hinner =>
      exact Reaches.head (by simp [Step, hopen]) ((henr _ _ _ _ hinner).trans
        (Reaches.head (by simp [Step, hclose]) (Reaches.refl _)))
  | .rep lo hi greedy r, hu, k, p, q, e, h, hk, hag => by
    simp only [Expr.unbounded, Bool.and_eq_true, Option.isNone_iff_eq_none] at hu
    obtain ⟨rfl, hu⟩ := hu
    exact enters_rep (enters_compile r hu) lo greedy h hag

end

variable {p : Program} {cs : Array Char}

theorem Step.edge {c d : Config} (h : Step p.insts cs c d) : Edge p cs (c.pc, c.pos) (d.pc, d.pos) := by
  rcases c with ⟨pc, pos, σ⟩
  unfold Step at h
  unfold Edge
  split at h
  · obtain ⟨ch, hch, hin, rfl⟩ := h
    rename_i heq
    simp only [heq]
    exact ⟨ch, hch, hin, by simp⟩
  · rename_i heq
    simp only [heq]
    rcases h with rfl | rfl
    · exact .inl rfl
    · exact .inr rfl
  · rename_i heq
    simp only [heq]
    rw [h]
  · rename_i heq
    simp only [heq]
    obtain ⟨hl, rfl⟩ := h
    exact ⟨hl, by simp⟩
  · rename_i heq
    simp only [heq]
    rw [h]
  · cases h
  · cases h

theorem Steps.live {n : Nat} {c d : Config} (h : Steps p.insts cs n c d)
    (hacc : p.insts[d.pc]? = some .accept) : Live p cs (c.pc, c.pos) := by
  induction h with
  | refl => exact ⟨_, .refl, hacc⟩
  | step hs _ ih => exact (ih hacc).of_edge (Step.edge hs)

end Program

namespace Expr

variable {cs : Array Char}

/-- **Where the expression can be traversed, the depth-first search answers.**  For an expression
with no bounded repetition, a traversal inside group `0` from `s` makes the search from `s` reach
`accept`, so its outcome there is an answer. -/
theorem pick_some_of_traverse {r : Expr} {f : Nat → Nat} (hT : r.compile.Targets)
    (hR : r.compile.Ranked f) (hu : r.unbounded = true) {s j : Nat} {τ : Array (Option Nat)}
    (hs : s ≤ cs.size)
    (h : Traverse cs (.capture 0 r) s (Array.replicate (2 * r.groupCount) none) j τ) :
    ∃ τ', Program.Pick r.compile cs r.compile.start s (Array.replicate r.compile.slots none)
      (some τ') := by
  obtain ⟨h₀, -, hfrag⟩ := compile_shape r
  have henters := @Program.enters_compile r.compile.insts cs (.capture 0 r)
    (by simpa [unbounded] using hu) _ _ _ _ hfrag (by simp) (fun _ _ _ => rfl)
  obtain ⟨n, hsteps⟩ := henters _ _ _ _ h
  have hlive := hsteps.live h₀
  obtain ⟨o, ho⟩ := Program.exists_pick hT hR (Array.replicate r.compile.slots none)
    (r.compile.start, s) hT.1 hs
  cases o with
  | some τ' => exact ⟨τ', ho⟩
  | none => exact absurd hlive (ho.not_live rfl)

/-- **The search answers the one traversal from the first start.**  When no start from `start`
before `a` has a traversal of an expression with no bounded repetition, and every traversal
inside group `0` from `a` ends with the slots `out`, of which there is one, the search from
`start` answers `out`. -/
theorem search_eq_of_unique {r : Expr} {f : Nat → Nat} (hT : r.compile.Targets)
    (hR : r.compile.Ranked f) (hu : r.unbounded = true) {start a k : Nat}
    {out : Array (Option Nat)} (hsa : start ≤ a) (ha : a ≤ cs.size)
    (hbefore : ∀ s, start ≤ s → s < a → ∀ k ρ,
      ¬ Traverse cs (.capture 0 r) s (Array.replicate (2 * r.groupCount) none) k ρ)
    (hat : Traverse cs (.capture 0 r) a (Array.replicate (2 * r.groupCount) none) k out)
    (huniq : ∀ j ρ, Traverse cs (.capture 0 r) a (Array.replicate (2 * r.groupCount) none) j ρ →
      ρ = out) :
    r.compile.search cs start = some out := by
  obtain ⟨τ, hpick⟩ := pick_some_of_traverse hT hR hu ha hat
  obtain ⟨j, htr⟩ := traverse_of_pick hpick
  rw [← huniq j τ htr]
  exact search_eq_some_of_first hT hR hsa ha hbefore hpick

/-! ## Literal words and alternations -/

/-- The expression that reads the characters of a word one after another, as a pattern that
spells the word writes it. -/
def literal : List Char → Expr
  | [] => .empty
  | [c] => .set ⟨[(c.toNat, c.toNat)]⟩
  | c :: d :: rest => .cat (.set ⟨[(c.toNat, c.toNat)]⟩) (literal (d :: rest))

/-- The alternation of expressions, tried in order, as a pattern that separates them by `|`
writes it. -/
def alts : List Expr → Expr
  | [] => .empty
  | [e] => e
  | e :: f :: rest => .alt e (alts (f :: rest))

/-- **A literal reads its word**: it keeps the slots and moves on by the length of the word, whose
characters stand from where it starts. -/
theorem traverse_literal_iff (w : List Char) {i j : Nat} {σ τ : Array (Option Nat)} :
    Traverse cs (literal w) i σ j τ ↔ τ = σ ∧ j = i + w.length ∧ w <+: cs.toList.drop i := by
  induction w generalizing i with
  | nil =>
    constructor
    · intro h
      cases h
      simp
    · rintro ⟨rfl, rfl, -⟩
      exact .empty
  | cons c rest ih =>
    cases rest with
    | nil =>
      constructor
      · intro h
        cases h with
        | set hch hin =>
          rw [CharClass.searchRanges_single rfl, decide_eq_true_eq] at hin
          subst hin
          refine ⟨rfl, rfl, ?_⟩
          rw [List.drop_eq_getElem_cons (by simpa using (Array.getElem?_eq_some_iff.1 hch).1)]
          simpa using (Array.getElem?_eq_some_iff.1 hch).2.symm
      · rintro ⟨rfl, rfl, hpre⟩
        obtain ⟨hlt, hget⟩ : ∃ hlt : i < cs.size, cs[i] = c := by
          have hi : i < cs.toList.length := by
            by_contra hge
            rw [List.drop_eq_nil_of_le (by omega)] at hpre
            exact absurd hpre (by simp)
          rw [List.drop_eq_getElem_cons hi, List.cons_prefix_cons] at hpre
          exact ⟨by simpa using hi, by simpa using hpre.1.symm⟩
        exact .set (Array.getElem?_eq_some_iff.2 ⟨hlt, hget⟩) (by rw [CharClass.searchRanges_single rfl]; simp)
    | cons d rest' =>
      simp only [literal]
      constructor
      · intro h
        cases h with
        | cat hc hrest =>
          cases hc with
          | set hch hin =>
            rw [CharClass.searchRanges_single rfl, decide_eq_true_eq] at hin
            subst hin
            obtain ⟨rfl, rfl, hpre⟩ := (ih (i := i + 1)).1 hrest
            obtain ⟨hlt, hget⟩ := Array.getElem?_eq_some_iff.1 hch
            refine ⟨rfl, by simp; omega, ?_⟩
            rw [List.drop_eq_getElem_cons (by simpa using hlt), List.cons_prefix_cons]
            exact ⟨by simpa using hget.symm, by simpa [List.drop_drop, Nat.add_comm] using hpre⟩
      · rintro ⟨rfl, rfl, hpre⟩
        have hi : i < cs.toList.length := by
          by_contra hge
          rw [List.drop_eq_nil_of_le (by omega)] at hpre
          exact absurd hpre (by simp)
        rw [List.drop_eq_getElem_cons hi, List.cons_prefix_cons] at hpre
        refine .cat (.set (Array.getElem?_eq_some_iff.2 ⟨by simpa using hi, by simpa using hpre.1.symm⟩)
          (by rw [CharClass.searchRanges_single rfl]; simp)) ((ih (i := i + 1)).2 ⟨rfl, by simp; omega, ?_⟩)
        simpa [List.drop_drop, Nat.add_comm] using hpre.2

/-- **An alternation reads one of its members.** -/
theorem traverse_alts_iff {es : List Expr} (hes : es ≠ []) {i j : Nat} {σ τ : Array (Option Nat)} :
    Traverse cs (alts es) i σ j τ ↔ ∃ e ∈ es, Traverse cs e i σ j τ := by
  induction es with
  | nil => exact absurd rfl hes
  | cons e rest ih =>
    cases rest with
    | nil => simp [alts]
    | cons f rest' =>
      simp only [alts]
      constructor
      · intro h
        cases h with
        | altLeft h => exact ⟨e, by simp, h⟩
        | altRight h =>
          obtain ⟨e', he', h'⟩ := (ih (by simp)).1 h
          exact ⟨e', List.mem_cons_of_mem _ he', h'⟩
      · rintro ⟨e', he', h'⟩
        rcases List.mem_cons.1 he' with rfl | he'
        · exact .altLeft h'
        · exact .altRight ((ih (by simp)).2 ⟨e', he', h'⟩)

end Expr

end Highlight.Regex
