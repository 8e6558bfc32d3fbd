import Mathlib
import Highlight.LineCache

/-!
# The cache agrees with highlighting from scratch

A host keeps the lines of a document and its `LineCache` in step: it changes, inserts or removes a
line and tells the cache, switches the language, forgets every line, or brings the cache up to
date with a registry.  The main statement, `Document.agrees_after_refresh`, says that after any
such history every refresh leaves the cache holding, for every line, exactly what highlighting the
whole text from scratch gives that line, provided the registries of successive refreshes give
the same grammar for the cache's language.

* `LineCache.freshEntries`  the entries of highlighting a text from scratch;
* `LineCache.Faithful`      every entry is what highlighting its line from the entry's own start
                            state gives;
* `walk_eq_freshEntries`    a refresh over faithful entries gives the fresh ones: an entry is only
                            kept when it was made from the state the line before now ends in;
* `Document.step_consistent`, `Document.run_consistent`  every allowed edit keeps the entries
                            faithful to the grammar they were made with, also as lines shift
                            under insertion and removal and where the cache is shorter than the
                            text.
-/

namespace Highlight

namespace LineCache

/-- The entries that highlighting `text` from scratch with `tok` gives, the first line from
`state` and each later one from the state the line before ends in. -/
def freshEntries (tok : String → LineState → LineResult) :
    List String → LineState → List CachedLine
  | [], _ => []
  | line :: rest, state =>
    ⟨state, (tok line state).endState, (tok line state).spans⟩ ::
      freshEntries tok rest (tok line state).endState

@[simp] theorem length_freshEntries (tok : String → LineState → LineResult) :
    ∀ (text : List String) (state : LineState), (freshEntries tok text state).length = text.length
  | [], _ => rfl
  | _ :: rest, _ => by simp [freshEntries, length_freshEntries tok rest]

theorem map_result_freshEntries (tok : String → LineState → LineResult) :
    ∀ (text : List String) (state : LineState),
      (freshEntries tok text state).map (fun e => (⟨e.spans, e.endState⟩ : LineResult)) =
        threadLines tok text state
  | [], _ => rfl
  | line :: rest, state => by
    simp [freshEntries, map_result_freshEntries tok rest]

/-- Every present entry is what `tok` gives the line of `text` at its index, highlighted from
the entry's start state. -/
def Faithful (tok : String → LineState → LineResult) (text : List String)
    (entries : List (Option CachedLine)) : Prop :=
  ∀ (i : Nat) (e : CachedLine) (line : String), entries[i]? = some (some e) →
    text[i]? = some line → tok line e.startState = ⟨e.spans, e.endState⟩

section
variable {tok : String → LineState → LineResult} {text : List String}
  {entries : List (Option CachedLine)}

theorem Faithful.get (h : Faithful tok text entries) (i : Nat) {e : CachedLine} {line : String}
    (he : entries[i]? = some (some e)) (hl : text[i]? = some line) :
    tok line e.startState = ⟨e.spans, e.endState⟩ := by
  unfold Faithful at h
  exact h i e line he hl

theorem Faithful.tail {line : String} {entry : Option CachedLine}
    (h : Faithful tok (line :: text) (entry :: entries)) : Faithful tok text entries := by
  unfold Faithful
  intro i e l he hl
  exact h.get (i + 1) he hl

theorem faithful_of_forgotten (h : ∀ x ∈ entries, x = none) : Faithful tok text entries := by
  unfold Faithful
  intro i e line he _
  have := h _ (List.mem_of_getElem? he)
  simp at this

end

theorem faithful_freshEntries (tok : String → LineState → LineResult) :
    ∀ (text : List String) (state : LineState),
      Faithful tok text ((freshEntries tok text state).map some)
  | [], _ => by
    unfold Faithful
    intro i e line he _
    simp [freshEntries] at he
  | line :: rest, state => by
    unfold Faithful
    intro i e l he hl
    cases i with
    | zero =>
      simp only [freshEntries, List.map_cons, List.getElem?_cons_zero, Option.some.injEq] at he hl
      subst he hl
      rfl
    | succ i =>
      exact (faithful_freshEntries tok rest _).get i (by simpa [freshEntries] using he)
        (by simpa using hl)

/-- **A walk over faithful entries gives the fresh ones.**  An entry is kept only when it was
made from the state the line now starts in, and then it is what highlighting the line gives;
every other line is highlighted again.  So the walk threads the states as highlighting from
scratch does. -/
theorem walk_eq_freshEntries (r : Registry) (lang : Language) :
    ∀ (text : List String) (entries : List (Option CachedLine)) (state : LineState),
      entries.length = text.length → Faithful (r.tokenizeLine lang) text entries →
      (walk r lang text entries state).1 =
        (freshEntries (r.tokenizeLine lang) text state).map some
  | [], [], _, _, _ => by simp [walk, freshEntries]
  | [], _ :: _, _, hlen, _ => by simp at hlen
  | _ :: _, [], _, hlen, _ => by simp at hlen
  | line :: text, entry :: entries, state, hlen, hf => by
    have hlen' : entries.length = text.length := by simpa using hlen
    have ih := walk_eq_freshEntries r lang text entries
    have hfresh : (walk.fresh r lang line text entries state).1 =
        (freshEntries (r.tokenizeLine lang) (line :: text) state).map some := by
      simp [walk.fresh, freshEntries, ih _ hlen' hf.tail]
    cases entry with
    | none => simpa [walk] using hfresh
    | some e =>
      by_cases hs : e.startState = state
      · -- a kept entry is the line highlighted from its start state
        have he : r.tokenizeLine lang line state = ⟨e.spans, e.endState⟩ :=
          hs ▸ hf.get 0 rfl rfl
        obtain ⟨st, en, sp⟩ := e
        simp only at hs he
        subst hs
        simp [walk, freshEntries, he, ih _ hlen' hf.tail]
      · simpa [walk, hs] using hfresh

theorem getElem?_resized_of_some {lines : Array (Option CachedLine)} {n i : Nat}
    {e : CachedLine} (h : (resized lines n)[i]? = some (some e)) : lines[i]? = some (some e) := by
  unfold resized at h
  split at h
  · rw [Array.getElem?_extract] at h
    split at h
    · simpa using h
    · simp at h
  · rw [Array.getElem?_append] at h
    split at h
    · exact h
    · simp [Array.getElem?_replicate] at h

/-- **A refresh over faithful entries highlights as from scratch.** -/
theorem refresh_lines (c : LineCache) (r : Registry) (text : List String)
    (hf : Faithful (r.tokenizeLine c.language) text c.lines.toList) :
    (c.refresh r text).1.lines.toList =
      (freshEntries (r.tokenizeLine c.language) text .code).map some := by
  have hres : Faithful (r.tokenizeLine c.language) text (resized c.lines text.length).toList := by
    unfold Faithful
    intro i e line he hl
    exact hf.get i (by simpa using getElem?_resized_of_some (by simpa using he)) hl
  have h := walk_eq_freshEntries r c.language text (resized c.lines text.length).toList .code
    (by simp) hres
  simpa [refresh] using h

theorem lineSpans_of_fresh {c : LineCache} {tok : String → LineState → LineResult}
    {text : List String} {state : LineState}
    (h : c.lines.toList = (freshEntries tok text state).map some) (i : Nat) :
    c.lineSpans i = (threadLines tok text state)[i]?.map (·.spans) := by
  rw [← map_result_freshEntries, lineSpans, ← Array.getElem?_toList, h, List.getElem?_map,
    List.getElem?_map]
  generalize (freshEntries tok text state)[i]? = x
  cases x <;> rfl

theorem endState_of_fresh {c : LineCache} {tok : String → LineState → LineResult}
    {text : List String} {state : LineState}
    (h : c.lines.toList = (freshEntries tok text state).map some) (i : Nat) :
    c.endState i = (threadLines tok text state)[i]?.map (·.endState) := by
  rw [← map_result_freshEntries, endState, ← Array.getElem?_toList, h, List.getElem?_map,
    List.getElem?_map]
  generalize (freshEntries tok text state)[i]? = x
  cases x <;> rfl

/-! ## Edits keep the entries faithful -/

section
variable {tok : String → LineState → LineResult} {text : List String} {c : LineCache}

theorem faithful_editLine (h : Faithful tok text c.lines.toList) (idx : Nat) (line : String) :
    Faithful tok (text.set idx line) (c.editLine idx).lines.toList := by
  unfold Faithful
  intro j e l he hl
  simp only [editLine, Array.getElem?_toList, Array.getElem?_setIfInBounds] at he
  rw [List.getElem?_set] at hl
  by_cases hj : idx = j
  · -- the edited line is forgotten
    subst hj
    rw [if_pos rfl] at he
    split at he <;> simp at he
  · rw [if_neg hj] at he hl
    exact h.get j (by simpa using he) hl

theorem getElem?_insertLine (idx j : Nat) :
    (c.insertLine idx).lines[j]? =
      if j < min idx c.lines.size then c.lines[j]?
      else if j = min idx c.lines.size then some none
      else c.lines[j - 1]? := by
  simp only [insertLine]
  grind

theorem faithful_insertLine (h : Faithful tok text c.lines.toList) (idx : Nat) (line : String) :
    Faithful tok (text.insertIdx idx line) (c.insertLine idx).lines.toList := by
  unfold Faithful
  intro j e l he hl
  rw [Array.getElem?_toList, getElem?_insertLine] at he
  rw [List.getElem?_insertIdx] at hl
  by_cases hlt : j < min idx c.lines.size
  · -- before the insertion point nothing moves
    have hj : j < idx := by omega
    simp only [hlt, if_true] at he
    simp only [hj, if_true] at hl
    exact h.get j (by simpa using he) hl
  · by_cases heq : j = min idx c.lines.size
    · simp [heq] at he
    · -- after it the entry and the line both come from position `j - 1`, or the entry is beyond
      simp only [hlt, heq, if_false] at he
      obtain ⟨hlen, -⟩ := Array.getElem?_eq_some_iff.1 he
      have hj : idx < j := by omega
      simp only [show ¬ j < idx by omega, show j ≠ idx by omega, if_false] at hl
      exact h.get (j - 1) (by simpa using he) hl

theorem faithful_removeLine (h : Faithful tok text c.lines.toList) (idx : Nat) :
    Faithful tok (text.eraseIdx idx) (c.removeLine idx).lines.toList := by
  unfold Faithful
  intro j e l he hl
  simp only [removeLine, Array.toList_eraseIdxIfInBounds, List.getElem?_eraseIdx] at he
  rw [List.getElem?_eraseIdx] at hl
  split at he
  · rw [if_pos ‹j < idx›] at hl
    exact h.get j he hl
  · rw [if_neg ‹¬ j < idx›] at hl
    exact h.get (j + 1) he hl

theorem forgotten_invalidateAll (c : LineCache) : ∀ x ∈ c.invalidateAll.lines.toList, x = none := by
  simp [invalidateAll]

end

end LineCache

/-! ## Documents and their edits -/

/-- The lines of a document and the cache that highlights them. -/
structure Document where
  cache : LineCache
  text : List String

/-- What a host does to a document: change, insert or remove a line and tell the cache, switch
the language, forget every line, or bring the cache up to date with a registry. -/
inductive Edit where
  | setLine (idx : Nat) (line : String)
  | insertLine (idx : Nat) (line : String)
  | removeLine (idx : Nat)
  | setLanguage (lang : Language)
  | invalidateAll
  | refresh (r : Registry)
  | highlightAll (r : Registry)

/-- What a registry highlights a line with, given its grammar for the language. -/
def highlighterOf : Option Grammar → String → LineState → LineResult
  | some g => g.tokenizeLine
  | none => fun _ _ => ⟨[], .code⟩

theorem tokenizeLine_eq_highlighterOf (r : Registry) (lang : Language) :
    r.tokenizeLine lang = highlighterOf (r.grammar? lang) := by
  funext line state
  unfold Registry.tokenizeLine
  cases r.grammar? lang <;> rfl

namespace Document

/-- Makes an edit to the text and tells the cache. -/
def step (d : Document) : Edit → Document
  | .setLine idx line => ⟨d.cache.editLine idx, d.text.set idx line⟩
  | .insertLine idx line => ⟨d.cache.insertLine idx, d.text.insertIdx idx line⟩
  | .removeLine idx => ⟨d.cache.removeLine idx, d.text.eraseIdx idx⟩
  | .setLanguage lang => ⟨d.cache.setLanguage lang, d.text⟩
  | .invalidateAll => ⟨d.cache.invalidateAll, d.text⟩
  | .refresh r => ⟨(d.cache.refresh r d.text).1, d.text⟩
  | .highlightAll r => ⟨(d.cache.highlightAll r d.text).1, d.text⟩

/-- Makes the edits one after the other. -/
def run (d : Document) (edits : List Edit) : Document := edits.foldl step d

/-- The grammar the cached entries were made with after an edit, when `g` is the one before:
nothing is known once every entry is forgotten, and a refresh makes them with its registry's
grammar for the cache's language. -/
def madeWith (d : Document) (g : Option (Option Grammar)) : Edit → Option (Option Grammar)
  | .setLanguage _ | .invalidateAll => none
  | .refresh r | .highlightAll r => some (r.grammar? d.cache.language)
  | _ => g

/-- Whether an edit keeps to the grammar `g` the cached entries were made with: a refresh uses a
registry that gives that grammar for the cache's language. -/
def Keeps (d : Document) (g : Option (Option Grammar)) : Edit → Prop
  | .refresh r => ∀ g₀ ∈ g, r.grammar? d.cache.language = g₀
  | _ => True

/-- Whether every edit of `edits`, made one after the other, keeps to the grammar the entries
were made with, starting from `g`. -/
def KeepsGrammar : Document → Option (Option Grammar) → List Edit → Prop
  | _, _, [] => True
  | d, g, e :: edits => d.Keeps g e ∧ KeepsGrammar (d.step e) (d.madeWith g e) edits

/-- The invariant: the entries are faithful to the text under the highlighter of the grammar
they were made with, and under any highlighter when nothing is known (all are forgotten). -/
def Consistent (d : Document) (g : Option (Option Grammar)) : Prop :=
  ∀ tok, (∀ g₀ ∈ g, tok = highlighterOf g₀) → LineCache.Faithful tok d.text d.cache.lines.toList

theorem consistent_of_forgotten {d : Document} (h : ∀ x ∈ d.cache.lines.toList, x = none)
    (g : Option (Option Grammar)) : Consistent d g := by
  intro tok _
  exact LineCache.faithful_of_forgotten h

theorem consistent_new (lang : Language) (text : List String) :
    Consistent ⟨.new lang, text⟩ none :=
  consistent_of_forgotten (by simp [LineCache.new]) none

theorem faithful_of_keeps {d : Document} {g : Option (Option Grammar)} {r : Registry}
    (h : Consistent d g) (hk : d.Keeps g (.refresh r)) :
    LineCache.Faithful (r.tokenizeLine d.cache.language) d.text d.cache.lines.toList := by
  apply h
  intro g₀ hg₀
  rw [tokenizeLine_eq_highlighterOf, hk g₀ hg₀]

@[simp] theorem language_refresh (c : LineCache) (r : Registry) (text : List String) :
    (c.refresh r text).1.language = c.language := rfl

@[simp] theorem language_invalidateAll (c : LineCache) : c.invalidateAll.language = c.language :=
  rfl

theorem lines_step_refresh {d : Document} {g : Option (Option Grammar)} {r : Registry}
    {last : Edit} (hlast : last = .refresh r ∨ last = .highlightAll r) (h : Consistent d g)
    (hk : d.Keeps g last) :
    (d.step last).cache.lines.toList =
      (LineCache.freshEntries (r.tokenizeLine d.cache.language) d.text .code).map some := by
  rcases hlast with rfl | rfl
  · exact LineCache.refresh_lines _ r _ (faithful_of_keeps h hk)
  · -- everything is forgotten first, so any highlighter agrees with the entries
    exact LineCache.refresh_lines _ r _
      (LineCache.faithful_of_forgotten (LineCache.forgotten_invalidateAll d.cache))

/-- **One edit keeps the cache consistent** with the grammar its entries were made with. -/
theorem step_consistent {d : Document} {g : Option (Option Grammar)} {e : Edit}
    (h : Consistent d g) (hk : d.Keeps g e) : Consistent (d.step e) (d.madeWith g e) := by
  cases e with
  | setLine idx line =>
    intro tok htok
    exact LineCache.faithful_editLine (h tok htok) idx line
  | insertLine idx line =>
    intro tok htok
    exact LineCache.faithful_insertLine (h tok htok) idx line
  | removeLine idx =>
    intro tok htok
    exact LineCache.faithful_removeLine (h tok htok) idx
  | setLanguage lang =>
    exact consistent_of_forgotten (LineCache.forgotten_invalidateAll _) _
  | invalidateAll =>
    exact consistent_of_forgotten (LineCache.forgotten_invalidateAll _) _
  | refresh r =>
    intro tok htok
    rw [lines_step_refresh (.inl rfl) h hk, htok _ rfl, ← tokenizeLine_eq_highlighterOf]
    exact LineCache.faithful_freshEntries _ _ _
  | highlightAll r =>
    intro tok htok
    rw [lines_step_refresh (.inr rfl) h hk, htok _ rfl, ← tokenizeLine_eq_highlighterOf]
    exact LineCache.faithful_freshEntries _ _ _

/-- **A run of edits that keeps to the grammar keeps the cache consistent**, up to an edit that
still keeps to it. -/
theorem run_consistent (last : Edit) :
    ∀ (edits : List Edit) (d : Document) (g : Option (Option Grammar)),
      Consistent d g → KeepsGrammar d g (edits ++ [last]) →
      ∃ g', Consistent (d.run edits) g' ∧ (d.run edits).Keeps g' last
  | [], _, g, h, hk => ⟨g, h, hk.1⟩
  | e :: edits, d, g, h, hk =>
    run_consistent last edits (d.step e) (d.madeWith g e) (step_consistent h hk.1) hk.2

/-- **The cache agrees with highlighting from scratch.**  After any edits, a refresh with the
registry the entries were made with leaves every line with the spans and the end state that
highlighting the whole text from its first line gives. -/
theorem agrees_after_refresh (lang : Language) (text : List String) (edits : List Edit)
    (r : Registry) (last : Edit) (hlast : last = .refresh r ∨ last = .highlightAll r)
    (hkeep : KeepsGrammar ⟨.new lang, text⟩ none (edits ++ [last])) :
    let d := run ⟨.new lang, text⟩ (edits ++ [last])
    d.cache.len = d.text.length ∧
      ∀ i, d.cache.lineSpans i =
          (r.tokenizeLines d.cache.language d.text .code)[i]?.map (·.spans) ∧
        d.cache.endState i = (r.tokenizeLines d.cache.language d.text .code)[i]?.map (·.endState) := by
  intro d
  obtain ⟨g, hc, hk⟩ := run_consistent last edits _ none (consistent_new lang text) hkeep
  have hd : d = (run ⟨.new lang, text⟩ edits).step last := by
    simp [d, run, List.foldl_append]
  have hsame : d.cache.language = (run ⟨.new lang, text⟩ edits).cache.language ∧
      d.text = (run ⟨.new lang, text⟩ edits).text := by
    rcases hlast with rfl | rfl <;> simp [hd, step, LineCache.highlightAll]
  have hlines : d.cache.lines.toList =
      (LineCache.freshEntries (r.tokenizeLine d.cache.language) d.text .code).map some := by
    rw [hsame.1, hsame.2, hd]
    exact lines_step_refresh hlast hc hk
  refine ⟨?_, fun i => ⟨LineCache.lineSpans_of_fresh hlines i, LineCache.endState_of_fresh hlines i⟩⟩
  have := congrArg List.length hlines
  simpa [LineCache.len] using this

/-- The history of the source's own tests: a comment opened on the second line, a line
inserted in front and removed again, each followed by a refresh with the initial registry. -/
theorem agrees_after_comment_history :
    let d₀ : Document := ⟨.new .config, ["a = 1", "b = 2", "c = 3", "d = 4"]⟩
    let edits := [Edit.refresh .initial, .setLine 1 "b = 2 /* open", .refresh .initial,
      .insertLine 0 "/*", .refresh .initial, .removeLine 0]
    let d := run d₀ (edits ++ [.refresh .initial])
    KeepsGrammar d₀ none (edits ++ [.refresh .initial]) ∧
      d.cache.len = d.text.length ∧
      ∀ i, d.cache.lineSpans i =
          (Registry.initial.tokenizeLines d.cache.language d.text .code)[i]?.map (·.spans) ∧
        d.cache.endState i =
          (Registry.initial.tokenizeLines d.cache.language d.text .code)[i]?.map (·.endState) := by
  intro d₀ edits d
  have hk : KeepsGrammar d₀ none (edits ++ [.refresh .initial]) := by
    simp [d₀, edits, KeepsGrammar, Keeps, madeWith, step, LineCache.editLine,
      LineCache.insertLine, LineCache.removeLine, LineCache.new]
  exact ⟨hk, agrees_after_refresh .config _ edits .initial _ (.inl rfl) hk⟩

end Document

end Highlight
