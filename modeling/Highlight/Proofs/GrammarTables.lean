import Mathlib.Data.List.Forall2
import Highlight.Grammar.Table

/-!
# Grammar tables and the builder calls

A grammar table describes a grammar field by field (`Grammar.Description.ReadFrom`): a `name`
string; `extensions`, absent or an array of strings; the two comment delimiters, both strings or
neither (a value that is no string counts as absent); and the tables of `rule`, each with a
`pattern` string, a `style` string naming a style tag, and a `group` that is absent (group `0`)
or a non-negative integer (a `rule` that is no array counts as no rules).

Main statement (`Grammar.ofTable_eq_ok_iff_build`): `Grammar.ofTable` accepts a table exactly
when it describes a grammar whose patterns compile (`Grammar.Description.Compiles`), whose trimmed
name is not empty and which has a rule; and then it answers the grammar the builder calls make
from the description (`Grammar.Description.build`): a grammar with the name, each extension added
in order, the comment delimiters set when both are given, then each rule added in order.  That
grammar passes `Grammar.validate`, and has the extensions of the table as the grammar stores them.

The proof reads `ofTable` as its four phases (`Grammar.ofTable_eq_ok_iff_phases`) and each phase
as the part of the description it reads (`Grammar.addExtensionValues_eq_ok_iff`,
`Grammar.foldlM_addRuleTable_eq_ok_iff`).
-/

namespace Highlight

open Toml

theorem except_bind_eq_ok {ε α β : Type} {x : Except ε α} {f : α → Except ε β} {b : β} :
    (x >>= f) = .ok b ↔ ∃ a, x = .ok a ∧ f a = .ok b := by
  cases x <;> simp [bind, Except.bind]

theorem except_exists_ok_unit {ε : Type} {x : Except ε Unit} : (∃ u, x = .ok u) ↔ x = .ok () :=
  ⟨fun ⟨(), h⟩ => h, fun h => ⟨(), h⟩⟩

namespace Grammar

/-! ## The builder calls -/

theorem groupRule_eq_ok_iff (g g' : Grammar) (source : String) (group : Nat) (style : Style) :
    g.groupRule source group style = .ok g' ↔
      ∃ p, Pattern.withGroup source group = .ok p ∧ g' = g.addRule ⟨p, style⟩ := by
  unfold groupRule
  rw [except_bind_eq_ok]
  simp only [pure, Except.pure, Except.ok.injEq]
  constructor <;> rintro ⟨p, hp, rfl⟩ <;> exact ⟨p, hp, rfl⟩

theorem setBlockComment_eq_ok_iff (g g' : Grammar) (start stop : String) :
    g.setBlockComment start stop = .ok g' ↔
      ∃ a b, Pattern.new start = .ok a ∧ Pattern.new stop = .ok b ∧
        g' = { g with blockComment := some ⟨a, b⟩ } := by
  unfold setBlockComment
  simp only [except_bind_eq_ok, pure, Except.pure, Except.ok.injEq]
  constructor
  · rintro ⟨a, ha, b, hb, rfl⟩
    exact ⟨a, b, ha, hb, rfl⟩
  · rintro ⟨a, b, ha, hb, rfl⟩
    exact ⟨a, ha, b, hb, rfl⟩

@[simp] theorem name_foldl_addExtension (exts : List String) :
    ∀ g : Grammar, (exts.foldl addExtension g).name = g.name := by
  induction exts with
  | nil => intro g; rfl
  | cons ext exts ih => intro g; simp [ih]

@[simp] theorem extensions_foldl_addExtension (exts : List String) :
    ∀ g : Grammar, (exts.foldl addExtension g).extensions =
      g.extensions ++ exts.map storedExtension := by
  induction exts with
  | nil => intro g; simp
  | cons ext exts ih => intro g; simp [ih]

@[simp] theorem rules_foldl_addExtension (exts : List String) :
    ∀ g : Grammar, (exts.foldl addExtension g).rules = g.rules := by
  induction exts with
  | nil => intro g; rfl
  | cons ext exts ih => intro g; simp [ih, addExtension]

theorem foldlM_groupRule_eq_ok (rules : List (String × Nat × Style)) :
    ∀ g g' : Grammar,
      rules.foldlM (fun g rule => g.groupRule rule.1 rule.2.1 rule.2.2) g = .ok g' →
        (∀ rule ∈ rules, ∃ p, Pattern.withGroup rule.1 rule.2.1 = .ok p) ∧ g'.name = g.name ∧
          g'.extensions = g.extensions ∧ g'.rules.length = g.rules.length + rules.length := by
  induction rules with
  | nil =>
    intro g g' h
    cases h
    simp
  | cons rule rules ih =>
    intro g g' h
    rw [List.foldlM_cons, except_bind_eq_ok] at h
    obtain ⟨g₁, h₁, h⟩ := h
    obtain ⟨p, hp, rfl⟩ := (groupRule_eq_ok_iff _ _ _ _ _).1 h₁
    obtain ⟨hcompiles, hname, hexts, hlen⟩ := ih _ _ h
    refine ⟨?_, hname, hexts, ?_⟩
    · intro r hr
      rcases List.mem_cons.1 hr with rfl | hr
      · exact ⟨p, hp⟩
      · exact hcompiles r hr
    · simp [hlen]
      omega

/-! ## Reading the table, phase by phase -/

theorem ofTable_eq_ok_iff_phases (t : Table) (g : Grammar) :
    ofTable t = .ok g ↔ ∃ name g₁ g₂,
      (t.get? "name").bind Value.asString? = some name ∧
      (t.get? "extensions" = none ∧ g₁ = named name ∨
        ∃ items, t.get? "extensions" = some (.array items) ∧
          addExtensionValues name (named name) items = .ok g₁) ∧
      ((t.get? "comment-start").bind Value.asString? = none ∧
          (t.get? "comment-end").bind Value.asString? = none ∧ g₂ = g₁ ∨
        ∃ a b, (t.get? "comment-start").bind Value.asString? = some a ∧
          (t.get? "comment-end").bind Value.asString? = some b ∧ g₁.setBlockComment a b = .ok g₂) ∧
      (((t.get? "rule").bind Value.asArray?).getD []).foldlM (addRuleTable name) g₂ = .ok g ∧
      g.validate = .ok () := by
  unfold ofTable
  cases hn : (t.get? "name").bind Value.asString? with
  | none => simp
  | some name =>
    simp only
    -- the phases do not depend on each other's values: split on every field at once
    rcases hx : t.get? "extensions" with _ | (_ | _ | _ | _ | _ | items | _) <;>
      cases hs : (t.get? "comment-start").bind Value.asString? <;>
      cases he : (t.get? "comment-end").bind Value.asString? <;>
      simp [except_bind_eq_ok, except_exists_ok_unit, pure, Except.pure, Value.asArray?]

theorem addExtensionValues_eq_ok_iff (name : String) (items : List Value) :
    ∀ g g' : Grammar, addExtensionValues name g items = .ok g' ↔
      ∃ exts : List String, items = exts.map .string ∧ g' = exts.foldl addExtension g := by
  induction items with
  | nil => intro g g'; simp [addExtensionValues, pure, Except.pure, eq_comm]
  | cons v items ih =>
    intro g g'
    cases v with
    | string ext =>
      have hstep : addExtensionValues name g (.string ext :: items) =
          addExtensionValues name (g.addExtension ext) items := by
        simp [addExtensionValues, List.foldlM_cons, Value.asString?, bind, Except.bind]
      rw [hstep, ih]
      constructor
      · rintro ⟨exts, rfl, rfl⟩
        exact ⟨ext :: exts, rfl, rfl⟩
      · rintro ⟨_ | ⟨e, exts⟩, h, rfl⟩
        · cases h
        · simp only [List.map_cons, List.cons.injEq, Value.string.injEq] at h
          obtain ⟨rfl, rfl⟩ := h
          exact ⟨exts, rfl, rfl⟩
    | _ =>
      simp [addExtensionValues, List.foldlM_cons, Value.asString?, bind, Except.bind, eq_comm,
        List.map_eq_cons_iff]

theorem ruleGroup_eq_ok_iff (name : String) (rule : Table) (j : Nat) :
    ruleGroup name rule = .ok j ↔
      rule.get? "group" = none ∧ j = 0 ∨ rule.get? "group" = some (.integer j) := by
  unfold ruleGroup
  cases rule.get? "group" with
  | none => simp [eq_comm]
  | some v =>
    cases v with
    | integer i =>
      cases i with
      | ofNat k =>
        simp only [Value.asInteger?, Except.ok.injEq, Option.some.injEq, Value.integer.injEq,
          reduceCtorEq, false_and, false_or]
        exact ⟨fun h => h ▸ rfl, Int.ofNat.inj⟩
      | negSucc k => simp [Value.asInteger?]
    | _ => simp [Value.asInteger?]

/-- A table entry describes the rule with this pattern, group and style: it is a table with a
`pattern` string, a `style` string naming the style in some ASCII case, and the group absent
(then `0`) or given as an integer. -/
def DescribesRule (v : Value) (rule : String × Nat × Style) : Prop :=
  ∃ rt, v.asTable? = some rt ∧ (rt.get? "pattern").bind Value.asString? = some rule.1 ∧
    (∃ styleName, (rt.get? "style").bind Value.asString? = some styleName ∧
      Style.ofName? styleName = some rule.2.2) ∧
    (rt.get? "group" = none ∧ rule.2.1 = 0 ∨ rt.get? "group" = some (.integer rule.2.1))

theorem addRuleTable_eq_ok_iff (name : String) (g g' : Grammar) (v : Value) :
    addRuleTable name g v = .ok g' ↔
      ∃ rule, DescribesRule v rule ∧ g.groupRule rule.1 rule.2.1 rule.2.2 = .ok g' := by
  unfold addRuleTable DescribesRule
  cases hv : v.asTable? with
  | none => simp
  | some rt =>
    cases hp : (rt.get? "pattern").bind Value.asString? with
    | none => simp [hp]
    | some pattern =>
      cases hs : (rt.get? "style").bind Value.asString? with
      | none => simp [hp, hs]
      | some styleName =>
        cases hst : Style.ofName? styleName with
        | none => simp [hp, hs, hst]
        | some style =>
          simp [hp, hs, hst, except_bind_eq_ok, ruleGroup_eq_ok_iff]

theorem foldlM_addRuleTable_eq_ok_iff (name : String) (items : List Value) :
    ∀ g g' : Grammar, items.foldlM (addRuleTable name) g = .ok g' ↔
      ∃ rules : List (String × Nat × Style), List.Forall₂ DescribesRule items rules ∧
        rules.foldlM (fun g rule => g.groupRule rule.1 rule.2.1 rule.2.2) g = .ok g' := by
  induction items with
  | nil =>
    intro g g'
    simp [List.forall₂_nil_left_iff, pure, Except.pure]
  | cons v items ih =>
    intro g g'
    simp only [List.foldlM_cons, except_bind_eq_ok, addRuleTable_eq_ok_iff, ih,
      List.forall₂_cons_left_iff]
    constructor
    · rintro ⟨g₁, ⟨rule, hrule, h₁⟩, rules, hrules, h⟩
      refine ⟨rule :: rules, ⟨rule, rules, hrule, hrules, rfl⟩, ?_⟩
      rw [List.foldlM_cons, except_bind_eq_ok]
      exact ⟨g₁, h₁, h⟩
    · rintro ⟨_, ⟨rule, rules, hrule, hrules, rfl⟩, h⟩
      rw [List.foldlM_cons, except_bind_eq_ok] at h
      obtain ⟨g₁, h₁, h⟩ := h
      exact ⟨g₁, ⟨rule, hrule, h₁⟩, rules, hrules, h⟩

/-! ## What a table describes -/

/-- A grammar as a table describes it: a name, extensions, optionally the comment delimiters, and
rules given as pattern, group and style. -/
structure Description where
  name : String
  extensions : List String
  comment : Option (String × String)
  rules : List (String × Nat × Style)

namespace Description

/-- The table `t` describes `d`, field by field. -/
structure ReadFrom (d : Description) (t : Table) : Prop where
  /-- `name` is the name, a string. -/
  name : (t.get? "name").bind Value.asString? = some d.name
  /-- `extensions` is absent, and there are none, or an array of the extensions as strings. -/
  extensions : t.get? "extensions" = none ∧ d.extensions = [] ∨
    t.get? "extensions" = some (.array (d.extensions.map .string))
  /-- `comment-start` is the opening delimiter as a string, or no string when there are none. -/
  commentStart : (t.get? "comment-start").bind Value.asString? = d.comment.map (·.1)
  /-- `comment-end` is the closing delimiter as a string, or no string when there are none. -/
  commentEnd : (t.get? "comment-end").bind Value.asString? = d.comment.map (·.2)
  /-- `rule` is an array of one table per rule, in order, or no array when there are none. -/
  rules : List.Forall₂ DescribesRule (((t.get? "rule").bind Value.asArray?).getD []) d.rules

/-- Every pattern of the description compiles: the comment delimiters as whole-match patterns,
each rule's pattern with its group. -/
structure Compiles (d : Description) : Prop where
  comment : ∀ c ∈ d.comment, (∃ a, Pattern.new c.1 = .ok a) ∧ ∃ b, Pattern.new c.2 = .ok b
  rules : ∀ rule ∈ d.rules, ∃ p, Pattern.withGroup rule.1 rule.2.1 = .ok p

/-- The grammar the builder calls make from a description: a grammar with its name, each extension
added in order, the comment delimiters set when there are some, then each rule added in order. -/
def build (d : Description) : Except Error Grammar := do
  let g := d.extensions.foldl addExtension (named d.name)
  let g ← match d.comment with
    | some c => g.setBlockComment c.1 c.2
    | none => pure g
  d.rules.foldlM (fun g rule => g.groupRule rule.1 rule.2.1 rule.2.2) g

theorem build_eq_ok_iff (d : Description) (g : Grammar) :
    d.build = .ok g ↔ ∃ g₂,
      (d.comment = none ∧ g₂ = d.extensions.foldl addExtension (named d.name) ∨
        ∃ a b, d.comment = some (a, b) ∧
          (d.extensions.foldl addExtension (named d.name)).setBlockComment a b = .ok g₂) ∧
      d.rules.foldlM (fun g rule => g.groupRule rule.1 rule.2.1 rule.2.2) g₂ = .ok g := by
  unfold build
  rcases d.comment with _ | ⟨a, b⟩ <;> simp [except_bind_eq_ok, pure, Except.pure]

theorem build_eq_ok {d : Description} {g : Grammar} (h : d.build = .ok g) :
    g.name = d.name ∧ g.extensions = d.extensions.map storedExtension ∧
      g.rules.length = d.rules.length ∧ d.Compiles := by
  obtain ⟨g₂, hcomment, hrules⟩ := (build_eq_ok_iff d g).1 h
  obtain ⟨hcompiles, hname, hexts, hlen⟩ := foldlM_groupRule_eq_ok _ _ _ hrules
  have hbase : g₂.name = d.name ∧ g₂.extensions = d.extensions.map storedExtension ∧
      g₂.rules = [] ∧ ∀ c ∈ d.comment, (∃ a, Pattern.new c.1 = .ok a) ∧ ∃ b, Pattern.new c.2 = .ok b := by
    rcases hcomment with ⟨hnone, rfl⟩ | ⟨a, b, hsome, hset⟩
    · simp [hnone, named]
    · obtain ⟨pa, pb, ha, hb, rfl⟩ := (setBlockComment_eq_ok_iff _ _ _ _).1 hset
      simp [hsome, named, ha, hb]
  obtain ⟨hname₂, hexts₂, hrules₂, hcomment₂⟩ := hbase
  exact ⟨hname.trans hname₂, hexts.trans hexts₂, by simp [hlen, hrules₂],
    ⟨hcomment₂, hcompiles⟩⟩

theorem extensions_eq_of_readFrom {d d' : Description} {t : Table} (h : d.ReadFrom t)
    (h' : d'.ReadFrom t) : d.extensions = d'.extensions := by
  rcases h.extensions with ⟨hnone, hnil⟩ | hsome <;>
    rcases h'.extensions with ⟨hnone', hnil'⟩ | hsome'
  · rw [hnil, hnil']
  · rw [hnone] at hsome'
    cases hsome'
  · rw [hnone'] at hsome
    cases hsome
  · -- both are the strings of one array
    rw [hsome] at hsome'
    have hmap : d.extensions.map Value.string = d'.extensions.map Value.string := by
      simpa using hsome'
    exact (List.map_inj_right fun _ _ h => Value.string.inj h).1 hmap

end Description

theorem exists_description_of_ofTable {t : Table} {g : Grammar} (h : ofTable t = .ok g) :
    ∃ d : Description, d.ReadFrom t ∧ d.Compiles ∧ (trimWhite d.name).isEmpty = false ∧
      d.rules ≠ [] ∧ d.build = .ok g := by
  obtain ⟨name, g₁, g₂, hname, hexts, hcomment, hrules, hvalid⟩ :=
    (ofTable_eq_ok_iff_phases t g).1 h
  obtain ⟨exts, hexts', rfl⟩ : ∃ exts : List String,
      (t.get? "extensions" = none ∧ exts = [] ∨
        t.get? "extensions" = some (.array (exts.map .string))) ∧
      g₁ = exts.foldl addExtension (named name) := by
    rcases hexts with ⟨hnone, rfl⟩ | ⟨items, hsome, hadd⟩
    · exact ⟨[], .inl ⟨hnone, rfl⟩, rfl⟩
    · obtain ⟨exts, rfl, rfl⟩ := (addExtensionValues_eq_ok_iff name items _ _).1 hadd
      exact ⟨exts, .inr hsome, rfl⟩
  obtain ⟨comment, hstart, hend, hcomment'⟩ : ∃ comment : Option (String × String),
      (t.get? "comment-start").bind Value.asString? = comment.map (·.1) ∧
      (t.get? "comment-end").bind Value.asString? = comment.map (·.2) ∧
      (comment = none ∧ g₂ = exts.foldl addExtension (named name) ∨
        ∃ a b, comment = some (a, b) ∧
          (exts.foldl addExtension (named name)).setBlockComment a b = .ok g₂) := by
    rcases hcomment with ⟨hs, he, rfl⟩ | ⟨a, b, hs, he, hset⟩
    · exact ⟨none, hs, he, .inl ⟨rfl, rfl⟩⟩
    · exact ⟨some (a, b), hs, he, .inr ⟨a, b, rfl, hset⟩⟩
  obtain ⟨rules, hdescribed, hfold⟩ := (foldlM_addRuleTable_eq_ok_iff name _ g₂ g).1 hrules
  let d : Description := ⟨name, exts, comment, rules⟩
  have hbuild : d.build = .ok g := (Description.build_eq_ok_iff d g).2 ⟨g₂, hcomment', hfold⟩
  obtain ⟨hgname, -, hglen, hcompiles⟩ := Description.build_eq_ok hbuild
  obtain ⟨hblank, hnorules⟩ := (validate_eq_ok_iff g).1 hvalid
  refine ⟨d, ⟨hname, hexts', hstart, hend, hdescribed⟩, hcompiles, hgname ▸ hblank, ?_, hbuild⟩
  intro hnil
  have hempty : g.rules = [] := List.eq_nil_of_length_eq_zero (by simpa [hnil] using hglen)
  simp [hempty] at hnorules

theorem ofTable_eq_ok_of_readFrom {t : Table} {g : Grammar} {d : Description}
    (hread : d.ReadFrom t) (hblank : (trimWhite d.name).isEmpty = false) (hrules : d.rules ≠ [])
    (hbuild : d.build = .ok g) : ofTable t = .ok g := by
  obtain ⟨g₂, hcomment, hfold⟩ := (Description.build_eq_ok_iff d g).1 hbuild
  obtain ⟨hgname, -, hglen, -⟩ := Description.build_eq_ok hbuild
  refine (ofTable_eq_ok_iff_phases t g).2
    ⟨d.name, d.extensions.foldl addExtension (named d.name), g₂, hread.name, ?_, ?_, ?_, ?_⟩
  · rcases hread.extensions with ⟨hnone, hnil⟩ | hsome
    · exact .inl ⟨hnone, by simp [hnil]⟩
    · exact .inr ⟨_, hsome, (addExtensionValues_eq_ok_iff _ _ _ _).2 ⟨d.extensions, rfl, rfl⟩⟩
  · rcases hcomment with ⟨hnone, rfl⟩ | ⟨a, b, hsome, hset⟩
    · exact .inl ⟨by simp [hread.commentStart, hnone], by simp [hread.commentEnd, hnone], rfl⟩
    · exact .inr ⟨a, b, by simp [hread.commentStart, hsome], by simp [hread.commentEnd, hsome],
        hset⟩
  · exact (foldlM_addRuleTable_eq_ok_iff _ _ _ _).2 ⟨d.rules, hread.rules, hfold⟩
  · -- the built grammar has the name and one rule per rule of the description
    rw [validate_eq_ok_iff, hgname]
    refine ⟨hblank, ?_⟩
    have hlen : g.rules.length ≠ 0 := by
      rw [hglen]
      exact fun h => hrules (List.eq_nil_of_length_eq_zero h)
    simpa [List.isEmpty_iff, ← List.length_eq_zero_iff] using hlen

/-- **A grammar table is read exactly as the builder calls would build it.**  A table is accepted
exactly when it describes, field by field, a grammar whose patterns compile and that may be
registered, and the grammar is the one the builder makes from that description. -/
theorem ofTable_eq_ok_iff_build (t : Table) (g : Grammar) :
    (ofTable t = .ok g ↔
      ∃ d : Description, d.ReadFrom t ∧ d.Compiles ∧ (trimWhite d.name).isEmpty = false ∧
        d.rules ≠ [] ∧ d.build = .ok g) ∧
    (ofTable t = .ok g → g.validate = .ok () ∧
      ∀ d : Description, d.ReadFrom t → g.extensions = d.extensions.map storedExtension) := by
  refine ⟨⟨exists_description_of_ofTable, ?_⟩, fun h => ⟨?_, fun d hread => ?_⟩⟩
  · rintro ⟨d, hread, -, hblank, hrules, hbuild⟩
    exact ofTable_eq_ok_of_readFrom hread hblank hrules hbuild
  · obtain ⟨-, -, -, -, -, -, -, hvalid⟩ := (ofTable_eq_ok_iff_phases t g).1 h
    exact hvalid
  · obtain ⟨d₀, hread₀, -, -, -, hbuild⟩ := exists_description_of_ofTable h
    rw [(Description.build_eq_ok hbuild).2.1, Description.extensions_eq_of_readFrom hread₀ hread]

end Grammar

end Highlight
