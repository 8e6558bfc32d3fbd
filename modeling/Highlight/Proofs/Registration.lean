import Highlight.Proofs.RegistryInvariant
import Highlight.Proofs.MatchBounds

/-!
# Registering a grammar

`Registry.registerGrammar` makes every check before it changes anything.  The grammar must pass
`Grammar.validate`; its name must not be one of a built-in language; and there must be room for
it, which there always is when a registered grammar has its name in some ASCII case (it takes that
grammar's place) and otherwise only below the limit of `2 ^ 16` grammars.  So the registration fails
in exactly these three cases, and then the registry stays as it was.

When it succeeds, the grammar replaces the one with its name, in place, or is appended.  Each of
its extensions, as the registry stores extensions, then maps to the grammar's language; every other
extension keeps its language, and the default language stays.  The extension table is read through
`Registry.extensionLanguage?`.

Main statement: `Registry.registerGrammar_fails_iff_and_frame`, for every registry with at most
`2 ^ 16` grammars, which every registry a host can reach has (`Registry.WellFormed.size_le`).
-/

namespace Highlight

namespace Registry

/-! ## The extension table -/

/-- The language an extension, as the registry stores it, maps to. -/
def extensionLanguage? (r : Registry) (key : String) : Option Language :=
  (r.extensions.find? (·.1 == key)).map (·.2)

theorem lookup_putExtension (es : List (String × Language)) (ext key : String) (lang : Language) :
    ((putExtension es ext lang).find? (·.1 == key)).map (·.2) =
      if key = ext then some lang else (es.find? (·.1 == key)).map (·.2) := by
  by_cases hk : key = ext
  · subst hk
    simp [find?_putExtension]
  · rw [if_neg hk]
    unfold putExtension
    split
    · -- the entry of `ext` is replaced in place, so no other key changes
      rw [List.find?_map]
      have hp : ((fun e : String × Language => e.1 == key) ∘
          fun e => if e.1 == ext then (ext, lang) else e) = fun e => e.1 == key := by
        funext e
        by_cases he : e.1 = ext
        · simp [he]
        · simp [he]
      rw [hp, Option.map_map]
      apply Option.map_congr
      intro e he
      have : e.1 = key := by simpa using List.find?_some he
      simp [this, hk]
    · -- the new entry comes after every other
      rw [List.find?_append]
      simp [Ne.symm hk]

@[simp] theorem extensionLanguage?_registerExtension (r : Registry) (ext key : String)
    (lang : Language) :
    (r.registerExtension ext lang).extensionLanguage? key =
      if key = normalizeExtension ext then some lang else r.extensionLanguage? key :=
  lookup_putExtension r.extensions (normalizeExtension ext) key lang

theorem extensionLanguage?_foldl_registerExtension (exts : List String) (lang : Language)
    (key : String) : ∀ r : Registry,
    (exts.foldl (fun r ext => r.registerExtension ext lang) r).extensionLanguage? key =
      if key ∈ exts.map normalizeExtension then some lang else r.extensionLanguage? key := by
  induction exts with
  | nil => intro r; simp
  | cons ext exts ih =>
    intro r
    rw [List.foldl_cons, ih, extensionLanguage?_registerExtension]
    simp only [List.map_cons, List.mem_cons]
    by_cases hk : key = normalizeExtension ext <;> by_cases hm : key ∈ exts.map normalizeExtension <;>
      simp [hk, hm]

theorem default_foldl_registerExtension (exts : List String) (lang : Language) :
    ∀ r : Registry, (exts.foldl (fun r ext => r.registerExtension ext lang) r).default = r.default := by
  induction exts with
  | nil => intro r; rfl
  | cons ext exts ih => intro r; simp [ih]

/-! ## The outcomes of a registration, check by check -/

section
variable {r : Registry} {g : Grammar}

theorem registerGrammar_of_invalid {e : Error} (hv : g.validate = .error e) :
    r.registerGrammar g = .error e := by
  simp [registerGrammar, hv, bind, Except.bind]

theorem registerGrammar_of_reserved (hv : g.validate = .ok ())
    (hb : (Language.ofBuiltinName g.name).isSome) :
    r.registerGrammar g = .error (.grammar (.reservedName g.name)) := by
  simp [registerGrammar, hv, hb, bind, Except.bind, throw, throwThe, MonadExceptOf.throw]

theorem registerGrammar_of_full (hv : g.validate = .ok ())
    (hb : Language.ofBuiltinName g.name = none)
    (hlim : Language.customLimit ≤ (r.customIndex? g.name).getD r.custom.size) :
    r.registerGrammar g = .error (.grammar .tooManyGrammars) := by
  simp [registerGrammar, hv, hb, hlim, bind, Except.bind, throw, throwThe, MonadExceptOf.throw]

theorem registerGrammar_of_replace {i : Nat} (hv : g.validate = .ok ())
    (hb : Language.ofBuiltinName g.name = none) (hi : r.customIndex? g.name = some i)
    (hlim : i < Language.customLimit) :
    r.registerGrammar g =
      .ok ({ g.extensions.foldl (fun s ext => s.registerExtension ext (.custom i)) r with
        custom := r.custom.setIfInBounds i g }, .custom i) := by
  have hroom : ¬ Language.customLimit ≤ i := by omega
  simp [registerGrammar, hv, hb, hi, hroom, bind, Except.bind, pure, Except.pure,
    custom_foldl_registerExtension]

theorem registerGrammar_of_append (hv : g.validate = .ok ())
    (hb : Language.ofBuiltinName g.name = none) (hi : r.customIndex? g.name = none)
    (hlim : r.custom.size < Language.customLimit) :
    r.registerGrammar g =
      .ok ({ g.extensions.foldl (fun s ext => s.registerExtension ext (.custom r.custom.size)) r with
        custom := r.custom.push g }, .custom r.custom.size) := by
  have hroom : ¬ Language.customLimit ≤ r.custom.size := by omega
  simp [registerGrammar, hv, hb, hi, hroom, bind, Except.bind, pure, Except.pure,
    custom_foldl_registerExtension]

theorem customIndex?_eq_none_iff :
    r.customIndex? g.name = none ↔ ∀ x ∈ r.custom, sameIgnoringAsciiCase x.name g.name = false := by
  simp [customIndex?, Array.findIdx?_eq_none_iff]

theorem lt_size_of_customIndex? {i : Nat} (hi : r.customIndex? g.name = some i) :
    i < r.custom.size :=
  (Array.findIdx?_eq_some_iff_getElem.1 hi).1

/-- **When a registration fails.**  With at most `2 ^ 16` grammars registered, a registration
fails exactly when the grammar does not pass `Grammar.validate`, or is named like a built-in
language, or has a name no registered grammar has in any ASCII case while `2 ^ 16` are
registered. -/
theorem registerGrammar_fails_iff (hr : r.custom.size ≤ Language.customLimit) :
    (∃ e, r.registerGrammar g = .error e) ↔
      g.validate ≠ .ok () ∨ (Language.ofBuiltinName g.name).isSome ∨
        ((∀ x ∈ r.custom, sameIgnoringAsciiCase x.name g.name = false) ∧
          r.custom.size = Language.customLimit) := by
  cases hv : g.validate with
  | error e => simp [registerGrammar_of_invalid hv]
  | ok u =>
    cases hb : Language.ofBuiltinName g.name with
    | some l => simp [registerGrammar_of_reserved hv (by simp [hb])]
    | none =>
      cases hi : r.customIndex? g.name with
      | some i =>
        -- a grammar that takes another's place always finds room
        have hlt : i < Language.customLimit := Nat.lt_of_lt_of_le (lt_size_of_customIndex? hi) hr
        have hsome : ¬ ∀ x ∈ r.custom, sameIgnoringAsciiCase x.name g.name = false := by
          rw [← customIndex?_eq_none_iff, hi]
          simp
        simp [registerGrammar_of_replace hv hb hi hlt, hsome]
      | none =>
        have hnone := customIndex?_eq_none_iff.1 hi
        by_cases hfull : r.custom.size = Language.customLimit
        · have hlim : Language.customLimit ≤ (r.customIndex? g.name).getD r.custom.size := by
            simp [hi, hfull]
          simpa [registerGrammar_of_full hv hb hlim, hfull] using hnone
        · simp [registerGrammar_of_append hv hb hi (by omega), hfull]

theorem registerGrammar_eq_ok_frame {r' : Registry} {lang : Language}
    (h : r.registerGrammar g = .ok (r', lang)) :
    ∃ i, lang = .custom i ∧
      ((r.customIndex? g.name = some i ∧ r'.custom = r.custom.setIfInBounds i g) ∨
        (r.customIndex? g.name = none ∧ i = r.custom.size ∧ r'.custom = r.custom.push g)) ∧
      (∀ key, r'.extensionLanguage? key =
        if key ∈ g.extensions.map normalizeExtension then some (.custom i)
        else r.extensionLanguage? key) ∧
      r'.default = r.default := by
  obtain ⟨hv, hb, hcases⟩ := registerGrammar_eq_ok h
  rcases hcases with ⟨i, hi, rfl, -⟩ | ⟨hi, hlt, rfl, -⟩
  · by_cases hlim : i < Language.customLimit
    · rw [registerGrammar_of_replace hv hb hi hlim] at h
      cases h
      exact ⟨i, rfl, .inl ⟨hi, rfl⟩, fun key => extensionLanguage?_foldl_registerExtension _ _ key r,
        default_foldl_registerExtension _ _ r⟩
    · rw [registerGrammar_of_full hv hb (by simp [hi]; omega)] at h
      cases h
  · rw [registerGrammar_of_append hv hb hi hlt] at h
    cases h
    exact ⟨r.custom.size, rfl, .inr ⟨hi, rfl, rfl⟩,
      fun key => extensionLanguage?_foldl_registerExtension _ _ key r,
      default_foldl_registerExtension _ _ r⟩

/-- **Registering a grammar is atomic and changes only what it should.**  Every check comes
before the first change: a failed registration leaves the registry as it was, and a successful
one changes one grammar, the grammar's own extensions and nothing else. -/
theorem registerGrammar_fails_iff_and_frame (r : Registry) (g : Grammar)
    (hr : r.custom.size ≤ Language.customLimit) :
    ((∃ e, r.registerGrammar g = .error e) ↔
        g.validate ≠ .ok () ∨ (Language.ofBuiltinName g.name).isSome ∨
          ((∀ x ∈ r.custom, sameIgnoringAsciiCase x.name g.name = false) ∧
            r.custom.size = Language.customLimit)) ∧
      (∀ e, r.registerGrammar g = .error e → r.perform (.registerGrammar g) = r) ∧
      (∀ r' lang, r.registerGrammar g = .ok (r', lang) →
        r.perform (.registerGrammar g) = r' ∧
        ∃ i, lang = .custom i ∧
          ((r.customIndex? g.name = some i ∧ r'.custom = r.custom.setIfInBounds i g) ∨
            (r.customIndex? g.name = none ∧ i = r.custom.size ∧ r'.custom = r.custom.push g)) ∧
          (∀ key, r'.extensionLanguage? key =
            if key ∈ g.extensions.map normalizeExtension then some (.custom i)
            else r.extensionLanguage? key) ∧
          r'.default = r.default) := by
  refine ⟨registerGrammar_fails_iff hr, fun e h => by simp [perform, h], fun r' lang h => ?_⟩
  exact ⟨by simp [perform, h], registerGrammar_eq_ok_frame h⟩

end

/-- A grammar with one extension and one rule, for runs of `a`, registers in the initial
registry, and the registration changes only what it should. -/
theorem registerGrammar_fails_iff_and_frame_of_ini :
    let r := initial
    let g := ((Grammar.named "ini").addExtension ".CFGX").withRule "a+" 0 .keyword
    r.custom.size ≤ Language.customLimit ∧ (∃ r' lang, r.registerGrammar g = .ok (r', lang)) ∧
    ((∃ e, r.registerGrammar g = .error e) ↔
        g.validate ≠ .ok () ∨ (Language.ofBuiltinName g.name).isSome ∨
          ((∀ x ∈ r.custom, sameIgnoringAsciiCase x.name g.name = false) ∧
            r.custom.size = Language.customLimit)) ∧
      (∀ e, r.registerGrammar g = .error e → r.perform (.registerGrammar g) = r) ∧
      (∀ r' lang, r.registerGrammar g = .ok (r', lang) →
        r.perform (.registerGrammar g) = r' ∧
        ∃ i, lang = .custom i ∧
          ((r.customIndex? g.name = some i ∧ r'.custom = r.custom.setIfInBounds i g) ∨
            (r.customIndex? g.name = none ∧ i = r.custom.size ∧ r'.custom = r.custom.push g)) ∧
          (∀ key, r'.extensionLanguage? key =
            if key ∈ g.extensions.map normalizeExtension then some (.custom i)
            else r.extensionLanguage? key) ∧
          r'.default = r.default) := by
  intro r g
  have hr : r.custom.size ≤ Language.customLimit := by simp [r, initial]
  have hframe := registerGrammar_fails_iff_and_frame r g hr
  have hg : g = ((Grammar.named "ini").addExtension ".CFGX").addRule ⟨_, .keyword⟩ :=
    Grammar.withRule_of_withGroup Pattern.withGroup_plus
  have hvalid : g.validate = .ok () := by
    rw [hg, Grammar.validate_eq_ok_iff]
    exact ⟨by decide +kernel, by simp⟩
  have hname : Language.ofBuiltinName g.name = none := by
    rw [hg]
    decide +kernel
  refine ⟨hr, ?_, hframe⟩
  cases h : r.registerGrammar g with
  | error e =>
    -- none of the three reasons to fail holds: a valid grammar, a new name, and room
    have hfail := hframe.1.1 ⟨e, h⟩
    simp only [hvalid, hname, ne_eq, not_true_eq_false, Option.isSome_none, Bool.false_eq_true,
      false_or] at hfail
    exact absurd hfail.2 (by simp [r, initial, Language.customLimit])
  | ok p => exact ⟨p.1, p.2, rfl⟩

end Registry

end Highlight
