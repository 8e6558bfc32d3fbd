import Mathlib
import Highlight.Registry

/-!
# What every registry keeps

A host changes a registry by registering extensions, setting the default language and registering
grammars, in any order; a registration that fails leaves the registry as it was.  Whatever the
calls, the registered grammars keep four facts (`Registry.WellFormed`): their names differ in more
than ASCII case, no built-in language is known by one of them, each passes `Grammar.validate`, and
there are at most `2 ^ 16` of them.

Registering a grammar checks the second and third fact itself.  The first holds because a grammar
whose name matches a registered one in ASCII case replaces it, and matching is an equivalence
(`sameIgnoringAsciiCase_trans`); the fourth because only a new name makes the list grow, and then
only below the limit.

So each registered grammar is found by its name at its own index
(`Registry.WellFormed.languageByName_custom`), an index that fits in 16 bits; a grammar registered
again under a name of another case gets the index of the one it replaces
(`Registry.WellFormed.index_registerGrammar_of_same`); and the names of all languages come out
strictly sorted, three built-in ones and one per registered grammar
(`Registry.WellFormed.languages_sorted`).
-/

namespace Highlight

/-! ## Names that agree in ASCII case -/

theorem sameIgnoringAsciiCase_iff {a b : String} :
    sameIgnoringAsciiCase a b = true ↔ a.toLower = b.toLower := by
  simp [sameIgnoringAsciiCase]

@[simp] theorem sameIgnoringAsciiCase_self (a : String) : sameIgnoringAsciiCase a a = true :=
  sameIgnoringAsciiCase_iff.2 rfl

theorem sameIgnoringAsciiCase_symm {a b : String} (h : sameIgnoringAsciiCase a b = true) :
    sameIgnoringAsciiCase b a = true :=
  sameIgnoringAsciiCase_iff.2 (sameIgnoringAsciiCase_iff.1 h).symm

theorem sameIgnoringAsciiCase_trans {a b c : String} (h₁ : sameIgnoringAsciiCase a b = true)
    (h₂ : sameIgnoringAsciiCase b c = true) : sameIgnoringAsciiCase a c = true :=
  sameIgnoringAsciiCase_iff.2 ((sameIgnoringAsciiCase_iff.1 h₁).trans (sameIgnoringAsciiCase_iff.1 h₂))

/-! ## The built-in names -/

namespace Grammar

theorem withRule_of_withGroup {g : Grammar} {source : String} {group : Nat} {style : Style}
    {p : Pattern} (h : Pattern.withGroup source group = .ok p) :
    g.withRule source group style = g.addRule ⟨p, style⟩ := by
  simp only [withRule, groupRule, h]
  rfl

@[simp] theorem name_withRule (g : Grammar) (source : String) (group : Nat) (style : Style) :
    (g.withRule source group style).name = g.name := by
  unfold withRule orKeep groupRule
  cases Pattern.withGroup source group <;> rfl

@[simp] theorem name_withRules (rules : List (String × Nat × Style)) :
    ∀ g : Grammar, (g.withRules rules).name = g.name := by
  induction rules with
  | nil => intro g; rfl
  | cons rule rules ih =>
    intro g
    simp only [withRules, List.foldl_cons] at ih ⊢
    rw [ih, name_withRule]

@[simp] theorem name_withBlockComment (g : Grammar) (start stop : String) :
    (g.withBlockComment start stop).name = g.name := by
  unfold withBlockComment orKeep setBlockComment
  cases Pattern.new start <;> cases Pattern.new stop <;> rfl

end Grammar

theorem names_builtinGrammars :
    builtinGrammars.map (·.2.name) = ["markup", "config", "script"] := by
  simp [builtinGrammars, markupGrammar, configGrammar, scriptGrammar, Grammar.named]

theorem ofBuiltinName_builtin : ∀ name ∈ builtinGrammars.map (·.2.name),
    Language.ofBuiltinName name ≠ none := by
  rw [names_builtinGrammars]
  intro name hname
  simp only [List.mem_cons, List.mem_nil_iff, or_false] at hname
  rcases hname with rfl | rfl | rfl <;> decide

namespace Registry

/-! ## Calls and the invariant -/

/-- A call a host makes on a registry. -/
inductive Call where
  | registerExtension (ext : String) (lang : Language)
  | setDefault (lang : Language)
  | registerGrammar (g : Grammar)

/-- The registry after a call; a registration that fails leaves it as it was. -/
def perform (r : Registry) : Call → Registry
  | .registerExtension ext lang => r.registerExtension ext lang
  | .setDefault lang => r.setDefault lang
  | .registerGrammar g =>
    match r.registerGrammar g with
    | .ok (r', _) => r'
    | .error _ => r

/-- What the registered grammars of every registry a host can reach keep. -/
structure WellFormed (r : Registry) : Prop where
  /-- No two registered grammars have names that agree in ASCII case. -/
  distinct : ∀ i j (hi : i < r.custom.size) (hj : j < r.custom.size),
    sameIgnoringAsciiCase r.custom[i].name r.custom[j].name = true → i = j
  /-- No built-in language is known by the name of a registered grammar. -/
  notBuiltin : ∀ g ∈ r.custom, Language.ofBuiltinName g.name = none
  /-- Every registered grammar could be registered. -/
  valid : ∀ g ∈ r.custom, g.validate = .ok ()
  /-- There are at most `2 ^ 16` registered grammars. -/
  size_le : r.custom.size ≤ Language.customLimit

theorem custom_foldl_registerExtension (exts : List String) (lang : Language) :
    ∀ r : Registry, (exts.foldl (fun r ext => r.registerExtension ext lang) r).custom = r.custom := by
  induction exts with
  | nil => intro r; rfl
  | cons ext exts ih => intro r; simp [ih]

theorem registerGrammar_eq_ok {r r' : Registry} {g : Grammar} {lang : Language}
    (h : r.registerGrammar g = .ok (r', lang)) :
    g.validate = .ok () ∧ Language.ofBuiltinName g.name = none ∧
      ((∃ i, r.customIndex? g.name = some i ∧ lang = .custom i ∧
          r'.custom = r.custom.setIfInBounds i g) ∨
        (r.customIndex? g.name = none ∧ r.custom.size < Language.customLimit ∧
          lang = .custom r.custom.size ∧ r'.custom = r.custom.push g)) := by
  unfold registerGrammar at h
  cases hv : g.validate with
  | error e => simp [hv, bind, Except.bind] at h
  | ok u =>
    simp only [hv, bind, Except.bind, pure, Except.pure] at h
    by_cases hb : (Language.ofBuiltinName g.name).isSome
    · simp [hb, throw, throwThe, MonadExceptOf.throw] at h
    · simp only [hb, Bool.false_eq_true, if_false] at h
      by_cases hlim : (r.customIndex? g.name).getD r.custom.size ≥ Language.customLimit
      · simp [hlim, throw, throwThe, MonadExceptOf.throw] at h
      · simp only [hlim, if_false, Except.ok.injEq, Prod.mk.injEq] at h
        obtain ⟨rfl, rfl⟩ := h
        refine ⟨rfl, Option.not_isSome_iff_eq_none.1 hb, ?_⟩
        cases hi : r.customIndex? g.name with
        | some i => exact .inl ⟨i, rfl, by simp, by simp [custom_foldl_registerExtension]⟩
        | none =>
          simp only [hi, Option.getD_none] at hlim
          exact .inr ⟨rfl, by omega, by simp, by simp [custom_foldl_registerExtension]⟩

theorem wellFormed_initial : initial.WellFormed where
  distinct i _ hi := by simp [initial] at hi
  notBuiltin g hg := by simp [initial] at hg
  valid g hg := by simp [initial] at hg
  size_le := by simp [initial]

theorem distinct_of_sameNames {a b : Array Grammar} (hsize : a.size = b.size)
    (hsame : ∀ i (ha : i < a.size) (hb : i < b.size),
      sameIgnoringAsciiCase a[i].name b[i].name = true)
    (hb : ∀ i j (hi : i < b.size) (hj : j < b.size),
      sameIgnoringAsciiCase b[i].name b[j].name = true → i = j) :
    ∀ i j (hi : i < a.size) (hj : j < a.size),
      sameIgnoringAsciiCase a[i].name a[j].name = true → i = j := by
  intro i j hi hj hij
  have hi' : i < b.size := hsize ▸ hi
  have hj' : j < b.size := hsize ▸ hj
  exact hb i j hi' hj' (sameIgnoringAsciiCase_trans
    (sameIgnoringAsciiCase_trans (sameIgnoringAsciiCase_symm (hsame i hi hi')) hij) (hsame j hj hj'))

section
variable {r : Registry}

theorem WellFormed.customIndex?_eq (h : r.WellFormed) {i : Nat} (hi : i < r.custom.size)
    {name : String} (hsame : sameIgnoringAsciiCase r.custom[i].name name = true) :
    r.customIndex? name = some i := by
  unfold customIndex?
  rw [Array.findIdx?_eq_some_iff_getElem]
  refine ⟨hi, hsame, fun j hji hj => ?_⟩
  -- an earlier match would agree in case with the `i`-th name
  have := h.distinct j i (by omega) hi (sameIgnoringAsciiCase_trans hj (sameIgnoringAsciiCase_symm hsame))
  omega

theorem distinct_setIfInBounds {a : Array Grammar} {i : Nat} {g : Grammar}
    (ha : ∀ j k (hj : j < a.size) (hk : k < a.size),
      sameIgnoringAsciiCase a[j].name a[k].name = true → j = k)
    (hi : i < a.size) (hsame : sameIgnoringAsciiCase a[i].name g.name = true) :
    ∀ j k (hj : j < (a.setIfInBounds i g).size) (hk : k < (a.setIfInBounds i g).size),
      sameIgnoringAsciiCase (a.setIfInBounds i g)[j].name (a.setIfInBounds i g)[k].name = true →
        j = k := by
  refine distinct_of_sameNames (by simp) (fun j hj ha' => ?_) ha
  simp only [Array.getElem_setIfInBounds ha']
  split
  · subst i
    exact sameIgnoringAsciiCase_symm hsame
  · exact sameIgnoringAsciiCase_self _

theorem distinct_push {a : Array Grammar} {g : Grammar}
    (ha : ∀ j k (hj : j < a.size) (hk : k < a.size),
      sameIgnoringAsciiCase a[j].name a[k].name = true → j = k)
    (hnew : ∀ j (hj : j < a.size), sameIgnoringAsciiCase a[j].name g.name = false) :
    ∀ j k (hj : j < (a.push g).size) (hk : k < (a.push g).size),
      sameIgnoringAsciiCase (a.push g)[j].name (a.push g)[k].name = true → j = k := by
  intro j k hj hk hjk
  simp only [Array.size_push] at hj hk
  simp only [Array.getElem_push] at hjk
  split at hjk <;> split at hjk
  · exact ha j k ‹_› ‹_› hjk
  · rw [hnew j ‹_›] at hjk
    cases hjk
  · have := hnew k ‹_›
    rw [sameIgnoringAsciiCase_symm hjk] at this
    cases this
  · omega

theorem mem_custom_of_registerGrammar {r' : Registry} {g : Grammar} {lang : Language}
    (hr : r.registerGrammar g = .ok (r', lang)) : ∀ x ∈ r'.custom, x ∈ r.custom ∨ x = g := by
  obtain ⟨-, -, hcases⟩ := registerGrammar_eq_ok hr
  rcases hcases with ⟨i, -, -, hcustom⟩ | ⟨-, -, -, hcustom⟩
  · exact fun x hx => Array.mem_or_eq_of_mem_setIfInBounds (hcustom ▸ hx)
  · exact fun x hx => Array.mem_push.1 (hcustom ▸ hx)

/-- **One registration keeps the invariant.** -/
theorem WellFormed.registerGrammar (h : r.WellFormed) {r' : Registry} {g : Grammar}
    {lang : Language} (hr : r.registerGrammar g = .ok (r', lang)) : r'.WellFormed := by
  obtain ⟨hv, hb, hcases⟩ := registerGrammar_eq_ok hr
  have hmem := mem_custom_of_registerGrammar hr
  refine ⟨?_, fun x hx => ?_, fun x hx => ?_, ?_⟩
  · rcases hcases with ⟨i, hi, -, hcustom⟩ | ⟨hnone, -, -, hcustom⟩ <;> rw [hcustom]
    · -- the grammar replaces the one whose name agrees with its own in ASCII case
      obtain ⟨hisize, hsame, -⟩ := Array.findIdx?_eq_some_iff_getElem.1 hi
      exact distinct_setIfInBounds h.distinct hisize hsame
    · -- a grammar with a new name is appended
      refine distinct_push h.distinct fun j hj => ?_
      simpa using (Array.findIdx?_eq_none_iff.1 hnone) r.custom[j] (Array.getElem_mem hj)
  · rcases hmem x hx with hx | rfl
    · exact h.notBuiltin x hx
    · exact hb
  · rcases hmem x hx with hx | rfl
    · exact h.valid x hx
    · exact hv
  · rcases hcases with ⟨i, -, -, hcustom⟩ | ⟨-, hlt, -, hcustom⟩
    · simpa [hcustom] using h.size_le
    · -- only a new name makes the list grow, and only below the limit
      simp only [hcustom, Array.size_push]
      omega

/-- **Every call keeps the invariant**, also a registration that fails. -/
theorem WellFormed.perform (h : r.WellFormed) : ∀ call, (r.perform call).WellFormed
  | .registerExtension _ _ => ⟨h.distinct, h.notBuiltin, h.valid, h.size_le⟩
  | .setDefault _ => ⟨h.distinct, h.notBuiltin, h.valid, h.size_le⟩
  | .registerGrammar g => by
    simp only [Registry.perform]
    split
    · exact h.registerGrammar ‹_›
    · exact h

/-! ## What the invariant gives -/

theorem WellFormed.languageByName_custom (h : r.WellFormed) {i : Nat} (hi : i < r.custom.size) :
    r.languageByName r.custom[i].name = some (.custom i) := by
  simp [languageByName, h.notBuiltin _ (Array.getElem_mem hi),
    h.customIndex?_eq hi (sameIgnoringAsciiCase_self _)]

theorem ofBuiltinName_ne_custom (name : String) (i : Nat) :
    Language.ofBuiltinName name ≠ some (.custom i) := by
  unfold Language.ofBuiltinName
  split <;> simp

theorem WellFormed.lt_customLimit_of_languageByName (h : r.WellFormed) {name : String} {i : Nat}
    (hname : r.languageByName name = some (.custom i)) : i < Language.customLimit := by
  unfold languageByName at hname
  split at hname
  · rename_i lang hlang
    cases hname
    exact absurd hlang (ofBuiltinName_ne_custom name i)
  · obtain ⟨j, hj, hji⟩ := Option.map_eq_some_iff.1 hname
    cases hji
    obtain ⟨hjsize, -⟩ := Array.findIdx?_eq_some_iff_getElem.1 hj
    exact Nat.lt_of_lt_of_le hjsize h.size_le

theorem WellFormed.index_registerGrammar_of_same (h : r.WellFormed) {i : Nat}
    (hi : i < r.custom.size) {g : Grammar} (hsame : sameIgnoringAsciiCase r.custom[i].name g.name = true)
    {r' : Registry} {lang : Language} (hr : r.registerGrammar g = .ok (r', lang)) :
    lang = .custom i := by
  have hidx := h.customIndex?_eq hi hsame
  obtain ⟨-, -, ⟨j, hj, hlang, -⟩ | ⟨hnone, -⟩⟩ := registerGrammar_eq_ok hr
  · rw [hidx] at hj
    cases hj
    exact hlang
  · rw [hidx] at hnone
    cases hnone

theorem WellFormed.nodup_names (h : r.WellFormed) :
    (builtinGrammars.map (·.2.name) ++ r.custom.toList.map (·.name)).Nodup := by
  refine List.nodup_append.2 ⟨by rw [names_builtinGrammars]; decide, ?_, ?_⟩
  · refine List.pairwise_iff_getElem.2 fun i j hi hj hij heq => ?_
    simp only [List.length_map, Array.length_toList] at hi hj
    simp only [List.getElem_map, Array.getElem_toList] at heq
    have := h.distinct i j hi hj (sameIgnoringAsciiCase_iff.2 (congrArg String.toLower heq))
    omega
  · -- a built-in name is known as a built-in language, a registered one is not
    intro a ha b hb hab
    obtain ⟨g, hg, rfl⟩ := List.mem_map.1 hb
    exact ofBuiltinName_builtin a ha (hab ▸ h.notBuiltin g (Array.mem_toList_iff.1 hg))

theorem WellFormed.languages_sorted (h : r.WellFormed) :
    r.languages.Pairwise (· < ·) ∧ r.languages.length = 3 + r.custom.size := by
  have hperm := List.mergeSort_perm (builtinGrammars.map (·.2.name) ++ r.custom.toList.map (·.name))
    fun a b => decide (a ≤ b)
  have hle : r.languages.Pairwise fun a b => decide (a ≤ b) = true :=
    List.pairwise_mergeSort (fun a b c hab hbc => by simpa using le_trans (by simpa using hab) (by simpa using hbc))
      (fun a b => by simpa using le_total a b) _
  have hnodup : r.languages.Nodup := hperm.nodup_iff.2 h.nodup_names
  refine ⟨(hle.and hnodup).imp fun ⟨hab, hne⟩ => lt_of_le_of_ne (by simpa using hab) hne, ?_⟩
  rw [languages, hperm.length_eq]
  simp only [List.length_append, List.length_map, names_builtinGrammars, Array.length_toList]
  rfl

end

theorem wellFormed_foldl_perform (calls : List Call) :
    ∀ r : Registry, r.WellFormed → (calls.foldl perform r).WellFormed := by
  induction calls with
  | nil => intro r h; exact h
  | cons call calls ih => intro r h; exact ih _ (h.perform call)

/-- **A registry after any calls.**  Whatever the calls from the initial registry,
`Registry.WellFormed` holds, so a lookup by name finds each registered grammar at its own index,
below `2 ^ 16`, and the names of the languages come out sorted. -/
theorem wellFormed_and_lookups_after_calls (calls : List Call) :
    let r := calls.foldl perform initial
    r.WellFormed ∧
      (∀ name i, r.languageByName name = some (.custom i) → i < Language.customLimit) ∧
      (∀ i (hi : i < r.custom.size),
        r.languageByName r.custom[i].name = some (.custom i) ∧
          r.grammar? (.custom i) = some r.custom[i]) ∧
      (∀ i (hi : i < r.custom.size) (g : Grammar) (r' : Registry) (lang : Language),
        sameIgnoringAsciiCase r.custom[i].name g.name = true →
          r.registerGrammar g = .ok (r', lang) → lang = .custom i) ∧
      r.languages.Pairwise (· < ·) ∧ r.languages.Nodup ∧
      r.languages.length = 3 + r.custom.size := by
  intro r
  have h : r.WellFormed := wellFormed_foldl_perform calls _ wellFormed_initial
  obtain ⟨hsorted, hlength⟩ := h.languages_sorted
  refine ⟨h, fun _ _ => h.lt_customLimit_of_languageByName,
    fun i hi => ⟨h.languageByName_custom hi, by simp [grammar?, hi]⟩,
    fun i hi g r' lang hsame hr => h.index_registerGrammar_of_same hi hsame hr,
    hsorted, hsorted.imp ne_of_lt, hlength⟩

end Registry

end Highlight
