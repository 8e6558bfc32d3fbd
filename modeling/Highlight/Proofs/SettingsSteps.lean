import Highlight.Settings

/-!
# Applying settings, step by step

Applying settings to a registry is a run of steps: register each grammar, in order; then map each
extension to the language its name has in the registry as the steps before left it; last, make
the language of the default name the default.  `Settings.Step.run` says what one step does through
the registry's own calls, and when it fails: a grammar that cannot be registered, or a name that
no language has.  A failing step changes nothing.

`RunsTo r steps (r', res)` is the run of `steps` from `r` that stops at the first failure: `res` is
that failure or success, and `r'` the registry the steps before it left.

Main statement (`Settings.apply_runs_steps_until_failure`): `Settings.apply` makes exactly these
steps in this order.  When they all succeed it answers success and the registry after the last;
otherwise it answers the error of the first step that fails and the registry the steps before it
left, with nothing rolled back.  `applyLenient` leaves the same registry and answers whether
`apply` succeeded.
-/

namespace Highlight

namespace Settings

/-- One step of applying settings. -/
inductive Step where
  /-- Register a grammar. -/
  | registerGrammar (g : Grammar)
  /-- Map an extension to the language of this name. -/
  | mapExtension (ext name : String)
  /-- Make the language of this name the default. -/
  | setDefault (name : String)

/-- What one step does to a registry, or why it fails. -/
def Step.run (r : Registry) : Step → Except Error Registry
  | .registerGrammar g => (r.registerGrammar g).map (·.1)
  | .mapExtension ext name =>
    match r.languageByName name with
    | some lang => .ok (r.registerExtension ext lang)
    | none => .error (.config (.unknownLanguage name ext))
  | .setDefault name =>
    match r.languageByName name with
    | some lang => .ok (r.setDefault lang)
    | none => .error (.config (.unknownDefault name))

/-- The steps of applying settings, in the order they are made: grammars, extensions, default. -/
def steps (s : Settings) : List Step :=
  s.grammars.map .registerGrammar ++ s.extensions.map (fun e => .mapExtension e.1 e.2) ++
    s.defaultLanguage.toList.map .setDefault

/-- Running steps in order from a registry until one fails: the registry the run leaves, and
success or the first failure. -/
inductive RunsTo : Registry → List Step → Registry × Except Error Unit → Prop
  | done (r : Registry) : RunsTo r [] (r, .ok ())
  | next {r r₁ : Registry} {st : Step} {rest : List Step} {res : Registry × Except Error Unit} :
      st.run r = .ok r₁ → RunsTo r₁ rest res → RunsTo r (st :: rest) res
  | stop {r : Registry} {st : Step} {rest : List Step} {e : Error} :
      st.run r = .error e → RunsTo r (st :: rest) (r, .error e)

namespace RunsTo

theorem append_ok {r r₁ : Registry} {a b : List Step} {res : Registry × Except Error Unit}
    (ha : RunsTo r a (r₁, .ok ())) (hb : RunsTo r₁ b res) : RunsTo r (a ++ b) res := by
  generalize hres : (r₁, (.ok () : Except Error Unit)) = res₁ at ha
  induction ha with
  | done r =>
    cases hres
    exact hb
  | next hst _ ih => exact .next hst (ih hres)
  | stop _ => cases hres

theorem append_error {r r₁ : Registry} {a : List Step} {e : Error}
    (ha : RunsTo r a (r₁, .error e)) (b : List Step) : RunsTo r (a ++ b) (r₁, .error e) := by
  generalize hres : (r₁, (.error e : Except Error Unit)) = res₁ at ha
  induction ha with
  | done r => cases hres
  | next hst _ ih => exact .next hst (ih hres)
  | stop hst =>
    cases hres
    exact .stop hst

theorem foldlM_eq_ok {r r' : Registry} {steps : List Step} (h : RunsTo r steps (r', .ok ())) :
    steps.foldlM Step.run r = .ok r' := by
  generalize hres : (r', (.ok () : Except Error Unit)) = res at h
  induction h with
  | done r =>
    cases hres
    rfl
  | next hst _ ih => simp [List.foldlM_cons, hst, bind, Except.bind, ih hres]
  | stop _ => cases hres

theorem exists_failing_step {r r' : Registry} {steps : List Step} {e : Error}
    (h : RunsTo r steps (r', .error e)) :
    ∃ pre st post, steps = pre ++ st :: post ∧ pre.foldlM Step.run r = .ok r' ∧
      st.run r' = .error e := by
  generalize hres : (r', (.error e : Except Error Unit)) = res at h
  induction h with
  | done r => cases hres
  | @next r r₁ st rest res hst _ ih =>
    obtain ⟨pre, st', post, rfl, hpre, hfail⟩ := ih hres
    exact ⟨st :: pre, st', post, rfl, by simp [List.foldlM_cons, hst, bind, Except.bind, hpre],
      hfail⟩
  | @stop r st rest e hst =>
    cases hres
    exact ⟨[], st, rest, rfl, rfl, hst⟩

theorem foldlM_eq_error {r r' : Registry} {steps : List Step} {e : Error}
    (h : RunsTo r steps (r', .error e)) : steps.foldlM Step.run r = .error e := by
  obtain ⟨pre, st, post, rfl, hpre, hfail⟩ := h.exists_failing_step
  simp [List.foldlM_append, hpre, List.foldlM_cons, hfail, bind, Except.bind]

theorem answers {r : Registry} {steps : List Step} {res : Registry × Except Error Unit}
    (h : RunsTo r steps res) :
    (∀ r', steps.foldlM Step.run r = .ok r' → res = (r', .ok ())) ∧
      (∀ e, steps.foldlM Step.run r = .error e →
        ∃ pre st post r', steps = pre ++ st :: post ∧ pre.foldlM Step.run r = .ok r' ∧
          st.run r' = .error e ∧ res = (r', .error e)) := by
  rcases res with ⟨r₀, e₀ | ⟨⟩⟩
  · -- a step failed: the fold fails with its error, after the steps before it
    have hfold := h.foldlM_eq_error
    obtain ⟨pre, st, post, hsteps, hpre, hfail⟩ := h.exists_failing_step
    refine ⟨fun r' hok => ?_, fun e herr => ?_⟩
    · rw [hfold] at hok
      cases hok
    · rw [hfold] at herr
      cases herr
      exact ⟨pre, st, post, r₀, hsteps, hpre, hfail, rfl⟩
  · -- every step succeeded
    have hfold := h.foldlM_eq_ok
    refine ⟨fun r' hok => ?_, fun e herr => ?_⟩
    · rw [hfold] at hok
      cases hok
      rfl
    · rw [hfold] at herr
      cases herr

end RunsTo

/-! ## The three phases of `apply` -/

theorem runsTo_registerGrammars (gs : List Grammar) :
    ∀ r : Registry, RunsTo r (gs.map .registerGrammar) (registerGrammars r gs) := by
  induction gs with
  | nil => intro r; exact .done r
  | cons g gs ih =>
    intro r
    simp only [List.map_cons, registerGrammars]
    cases hg : r.registerGrammar g with
    | error e => exact .stop (by simp [Step.run, hg, Except.map])
    | ok res => exact .next (by simp [Step.run, hg, Except.map]) (ih res.1)

theorem runsTo_registerExtensions (exts : List (String × String)) :
    ∀ r : Registry, RunsTo r (exts.map fun e => .mapExtension e.1 e.2)
      (registerExtensions r exts) := by
  induction exts with
  | nil => intro r; exact .done r
  | cons e exts ih =>
    intro r
    simp only [List.map_cons, registerExtensions]
    cases hl : r.languageByName e.2 with
    | none => exact .stop (by simp [Step.run, hl])
    | some lang => exact .next (by simp [Step.run, hl]) (ih _)

theorem runsTo_apply (s : Settings) (r : Registry) : RunsTo r s.steps (s.apply r) := by
  have hg := runsTo_registerGrammars s.grammars r
  rw [steps, List.append_assoc]
  unfold apply
  rcases hgs : registerGrammars r s.grammars with ⟨r₁, e | u⟩
  · rw [hgs] at hg
    exact hg.append_error _
  · cases u
    rw [hgs] at hg
    have hx := runsTo_registerExtensions s.extensions r₁
    dsimp only
    rcases hxs : registerExtensions r₁ s.extensions with ⟨r₂, e | u⟩
    · rw [hxs] at hx
      exact hg.append_ok (hx.append_error _)
    · cases u
      rw [hxs] at hx
      dsimp only
      refine hg.append_ok (hx.append_ok ?_)
      cases hd : s.defaultLanguage with
      | none => exact .done r₂
      | some name =>
        dsimp only
        cases hl : r₂.languageByName name with
        | none =>
          have hst : (Step.setDefault name).run r₂ = .error (.config (.unknownDefault name)) := by
            simp [Step.run, hl]
          exact .stop hst
        | some lang =>
          have hst : (Step.setDefault name).run r₂ = .ok (r₂.setDefault lang) := by
            simp [Step.run, hl]
          exact .next hst (.done _)

theorem applyLenient_agrees (s : Settings) (r : Registry) :
    (s.applyLenient r).1 = (s.apply r).1 ∧ ((s.applyLenient r).2 = true ↔ (s.apply r).2 = .ok ()) := by
  rcases happly : s.apply r with ⟨r₀, e₀ | ⟨⟩⟩ <;> simp [applyLenient, happly]

/-- **Applying settings stops at the first failure and keeps what came before.**  Nothing is rolled
back and the failing step leaves no trace; `applyLenient` leaves the same registry and reports
whether every step applied. -/
theorem apply_runs_steps_until_failure (s : Settings) (r : Registry) :
    (∀ r', s.steps.foldlM Step.run r = .ok r' → s.apply r = (r', .ok ())) ∧
      (∀ e, s.steps.foldlM Step.run r = .error e →
        ∃ pre st post r', s.steps = pre ++ st :: post ∧ pre.foldlM Step.run r = .ok r' ∧
          st.run r' = .error e ∧ s.apply r = (r', .error e)) ∧
      (s.applyLenient r).1 = (s.apply r).1 ∧
      ((s.applyLenient r).2 = true ↔ (s.apply r).2 = .ok ()) := by
  obtain ⟨hok, herr⟩ := (runsTo_apply s r).answers
  exact ⟨hok, herr, applyLenient_agrees s r⟩

end Settings

end Highlight
