import Highlight.Proofs.SpanBounds
import Highlight.Proofs.RegistryInvariant
import Highlight.Proofs.GrammarTables

/-!
# Every language of a registry gives well-formed spans

A grammar is `Grammar.Built` when each of its patterns was compiled from source.  The builder
keeps that: naming a grammar, adding extensions and rules, setting the comment delimiters, and a
step that fails and is skipped.  So the built-in grammars are built, and so is every grammar read
from a configuration table (`Grammar.built_of_ofTable`).  A registry keeps every
registered grammar built (`Registry.AllBuilt`) over any calls that register built grammars.
Every span that `Registry.tokenizeLine` gives a line, in any language, is then well formed.
-/

namespace Highlight

namespace Grammar

variable {g g' : Grammar}

theorem built_named (name : String) : (named name).Built :=
  ⟨fun _ h => absurd h List.not_mem_nil, fun _ h => by cases h⟩

theorem Built.addExtension (hg : g.Built) (ext : String) : (g.addExtension ext).Built :=
  ⟨hg.rules, hg.blockComment⟩

theorem Built.foldl_addExtension (exts : List String) (hg : g.Built) :
    (exts.foldl Grammar.addExtension g).Built := by
  induction exts generalizing g with
  | nil => exact hg
  | cons ext exts ih => exact ih (hg.addExtension ext)

theorem Built.addRule (hg : g.Built) {source : String} {group : Nat} {p : Pattern} (style : Style)
    (hp : Pattern.withGroup source group = .ok p) : (g.addRule ⟨p, style⟩).Built := by
  refine ⟨fun r hr => ?_, hg.blockComment⟩
  rcases List.mem_append.1 hr with hr | hr
  · exact hg.rules r hr
  · rw [List.mem_singleton.1 hr]
    exact ⟨source, group, hp⟩

theorem Built.groupRule (hg : g.Built) {source : String} {group : Nat} {style : Style}
    (h : g.groupRule source group style = .ok g') : g'.Built := by
  obtain ⟨p, hp, rfl⟩ := (groupRule_eq_ok_iff g g' source group style).1 h
  exact hg.addRule style hp

theorem Built.setBlockComment (hg : g.Built) {start stop : String}
    (h : g.setBlockComment start stop = .ok g') : g'.Built := by
  obtain ⟨a, b, ha, hb, rfl⟩ := (setBlockComment_eq_ok_iff g g' start stop).1 h
  refine ⟨hg.rules, fun bc hbc => ?_⟩
  cases Option.some.inj hbc
  exact ⟨⟨start, ha⟩, ⟨stop, hb⟩⟩

theorem Built.orKeep (hg : g.Built) {step : Except Error Grammar}
    (h : ∀ g', step = .ok g' → g'.Built) : (g.orKeep step).Built := by
  cases step with
  | ok g' => exact h g' rfl
  | error e => exact hg

theorem Built.withRule (hg : g.Built) (source : String) (group : Nat) (style : Style) :
    (g.withRule source group style).Built :=
  hg.orKeep fun _ => hg.groupRule

theorem Built.withBlockComment (hg : g.Built) (start stop : String) :
    (g.withBlockComment start stop).Built :=
  hg.orKeep fun _ => hg.setBlockComment

theorem Built.withRules (rules : List (String × Nat × Style)) (hg : g.Built) :
    (g.withRules rules).Built := by
  induction rules generalizing g with
  | nil => exact hg
  | cons rule rules ih => exact ih (hg.withRule rule.1 rule.2.1 rule.2.2)

theorem Built.foldlM_groupRule (rules : List (String × Nat × Style)) :
    ∀ g g' : Grammar, g.Built →
      rules.foldlM (fun g rule => g.groupRule rule.1 rule.2.1 rule.2.2) g = .ok g' → g'.Built := by
  induction rules with
  | nil =>
    intro g g' hg h
    cases h
    exact hg
  | cons rule rules ih =>
    intro g g' hg h
    rw [List.foldlM_cons, except_bind_eq_ok] at h
    obtain ⟨g₁, h₁, h⟩ := h
    exact ih g₁ g' (hg.groupRule h₁) h

theorem built_of_ofTable {t : Toml.Table} (h : ofTable t = .ok g) : g.Built := by
  obtain ⟨d, -, -, -, -, hbuild⟩ := exists_description_of_ofTable h
  obtain ⟨g₂, hcomment, hrules⟩ := (Description.build_eq_ok_iff d g).1 hbuild
  have hbase : (d.extensions.foldl Grammar.addExtension (named d.name)).Built :=
    (built_named _).foldl_addExtension _
  refine Built.foldlM_groupRule d.rules g₂ g ?_ hrules
  rcases hcomment with ⟨-, rfl⟩ | ⟨a, b, -, hset⟩
  · exact hbase
  · exact hbase.setBlockComment hset

theorem built_of_builtinGrammar (lang : Language) (h : lang.builtinGrammar = some g) : g.Built := by
  cases lang <;> simp only [Language.builtinGrammar, Option.some.injEq, reduceCtorEq] at h <;>
    subst h
  · exact (((built_named _).foldl_addExtension _).withRules _).withBlockComment _ _
  · exact (((built_named _).foldl_addExtension _).withRules _).withBlockComment _ _
  · exact ((((built_named _).addExtension _).withRules _)).withBlockComment _ _

end Grammar

namespace Registry

variable {r : Registry}

/-- Every grammar registered in the registry was built from source. -/
def AllBuilt (r : Registry) : Prop := ∀ g ∈ r.custom, g.Built

theorem allBuilt_initial : initial.AllBuilt := fun g hg => by simp [initial] at hg

theorem AllBuilt.perform (hr : r.AllBuilt) :
    ∀ call : Call, (∀ g, call = .registerGrammar g → g.Built) → (r.perform call).AllBuilt
  | .registerExtension _ _, _ => hr
  | .setDefault _, _ => hr
  | .registerGrammar g, hg => by
    simp only [Registry.perform]
    split
    · intro x hx
      rcases mem_custom_of_registerGrammar ‹_› x hx with hx | rfl
      · exact hr x hx
      · exact hg x rfl
    · exact hr

theorem allBuilt_foldl_perform (calls : List Call)
    (hcalls : ∀ g, Call.registerGrammar g ∈ calls → g.Built) :
    ∀ r : Registry, r.AllBuilt → (calls.foldl Registry.perform r).AllBuilt := by
  induction calls with
  | nil => exact fun r hr => hr
  | cons call calls ih =>
    intro r hr
    exact ih (fun g hg => hcalls g (List.mem_cons_of_mem _ hg)) _
      (hr.perform call fun g h => hcalls g (h ▸ List.mem_cons_self))

theorem AllBuilt.built_grammar? (hr : r.AllBuilt) {lang : Language} {g : Grammar}
    (h : r.grammar? lang = some g) : g.Built := by
  cases lang with
  | custom i => exact hr g (Array.mem_of_getElem? h)
  | markup => exact Grammar.built_of_builtinGrammar .markup h
  | config => exact Grammar.built_of_builtinGrammar .config h
  | script => exact Grammar.built_of_builtinGrammar .script h
  | unknown => exact Grammar.built_of_builtinGrammar .unknown h

/-- **Every language highlights a line into well-formed spans**, once the registry has been
reached from the initial one by calls that register only grammars built from source. -/
theorem tokenizeLine_spans_wellFormed_after_calls (calls : List Call)
    (hcalls : ∀ g, Call.registerGrammar g ∈ calls → g.Built) (lang : Language) (text : String)
    (state : LineState) :
    ∀ sp ∈ ((calls.foldl Registry.perform initial).tokenizeLine lang text state).spans,
      sp.WellFormed text ∧ (sp.text? text).isSome := by
  have hr := allBuilt_foldl_perform calls hcalls initial allBuilt_initial
  unfold tokenizeLine
  split
  · rename_i g hg
    intro sp hsp
    have hbound := (hr.built_grammar? hg).onBoundaries_tokenizeLine text state sp hsp
    exact ⟨hbound.wellFormed, hbound.isSome_text?⟩
  · exact fun sp hsp => absurd hsp List.not_mem_nil

end Registry

end Highlight
