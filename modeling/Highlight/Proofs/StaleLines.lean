import Mathlib
import Highlight.Proofs.CacheAgreement

/-!
# A refresh highlights exactly the stale lines

Highlighting a text from scratch starts each line in the state the line before it ends in
(`LineCache.stateBefore`).  A cache entry is stale when it is missing or was made from another
state than the one its line starts in that way (`LineCache.staleAt`).  Over entries that are what
highlighting their lines from their own start states gives (`LineCache.Faithful`), a refresh

* highlights again exactly the stale lines and answers how many there are
  (`LineCache.walk_count`), keeping every other entry as it was;
* changes nothing when made a second time with the same text;
* after one line `k` is changed and forgotten, highlights lines `k` to `m - 1`, where `m` is the
  first later line that starts in the state it started in before, or the end of the text: the
  state that changed flows forward until a line ends as it did before, and no further
  (`LineCache.staleAt_editLine_iff`).
-/

namespace Highlight

namespace LineCache

/-- The state line `i` of `text` starts in when the text is highlighted from scratch from
`state`; past the last line, the state the text ends in. -/
def stateBefore (tok : String → LineState → LineResult) : List String → LineState → Nat → LineState
  | _, state, 0 => state
  | [], state, _ + 1 => state
  | line :: rest, state, i + 1 => stateBefore tok rest (tok line state).endState i

/-- Whether a refresh from `state` must highlight line `i` again: it has no entry, or its entry
was made from another state than the one the line starts in when the text is highlighted from
scratch. -/
def staleAt (tok : String → LineState → LineResult) (text : List String)
    (entries : List (Option CachedLine)) (state : LineState) (i : Nat) : Bool :=
  match entries[i]? with
  | some (some e) => e.startState != stateBefore tok text state i
  | _ => true

section
variable {tok : String → LineState → LineResult}

@[simp] theorem stateBefore_zero (text : List String) (state : LineState) :
    stateBefore tok text state 0 = state := by
  cases text <;> rfl

@[simp] theorem stateBefore_cons_succ (line : String) (rest : List String) (state : LineState)
    (i : Nat) : stateBefore tok (line :: rest) state (i + 1) =
      stateBefore tok rest (tok line state).endState i := rfl

theorem stateBefore_succ :
    ∀ (text : List String) (state : LineState) (i : Nat) (hi : i < text.length),
      stateBefore tok text state (i + 1) = (tok text[i] (stateBefore tok text state i)).endState
  | [], _, _, hi => absurd hi (Nat.not_lt_zero _)
  | _ :: _, _, 0, _ => by simp
  | _ :: rest, _, i + 1, hi => stateBefore_succ rest _ i (by simpa using hi)

theorem stateBefore_eq_of_agree {text text' : List String} (hlen : text'.length = text.length)
    {state state' : LineState} {a : Nat}
    (ha : stateBefore tok text' state' a = stateBefore tok text state a) :
    ∀ i, a ≤ i → i ≤ text.length → (∀ j, a ≤ j → j < i → text'[j]? = text[j]?) →
      stateBefore tok text' state' i = stateBefore tok text state i := by
  intro i hai
  induction i, hai using Nat.le_induction with
  | base => exact fun _ _ => ha
  | succ i hai ih =>
    intro hi hagree
    have hline : text'[i]? = text[i]? := hagree i hai (Nat.lt_succ_self i)
    have hi' : i < text'.length := by omega
    rw [stateBefore_succ text' state' i hi', stateBefore_succ text state i (by omega),
      ih (by omega) fun j hj hji => hagree j hj (by omega)]
    rw [List.getElem?_eq_getElem hi', List.getElem?_eq_getElem (by omega)] at hline
    rw [Option.some.inj hline]

theorem getElem?_freshEntries :
    ∀ (text : List String) (state : LineState) (i : Nat),
      (freshEntries tok text state)[i]? = text[i]?.map fun line =>
        ⟨stateBefore tok text state i, (tok line (stateBefore tok text state i)).endState,
          (tok line (stateBefore tok text state i)).spans⟩
  | [], _, _ => rfl
  | _ :: _, _, 0 => rfl
  | _ :: rest, _, i + 1 => getElem?_freshEntries rest _ i

@[simp] theorem staleAt_cons_succ (line : String) (text : List String) (entry : Option CachedLine)
    (entries : List (Option CachedLine)) (state : LineState) (i : Nat) :
    staleAt tok (line :: text) (entry :: entries) state (i + 1) =
      staleAt tok text entries (tok line state).endState i := rfl

theorem staleAt_cons_zero (line : String) (text : List String) (entry : Option CachedLine)
    (entries : List (Option CachedLine)) (state : LineState) :
    staleAt tok (line :: text) (entry :: entries) state 0 =
      match entry with
      | some e => e.startState != state
      | none => true := by
  cases entry <;> rfl

end

/-- **A walk highlights again exactly the stale lines.** Over faithful entries, one for each line,
the walk counts the lines it highlights, and they are the stale ones: a kept entry hands on the
state the line ends in, so the walk threads the states of highlighting from scratch. -/
theorem walk_count (r : Registry) (lang : Language) :
    ∀ (text : List String) (entries : List (Option CachedLine)) (state : LineState),
      entries.length = text.length → Faithful (r.tokenizeLine lang) text entries →
      (walk r lang text entries state).2 = ((Finset.range text.length).filter
        fun i => staleAt (r.tokenizeLine lang) text entries state i).card
  | [], [], _, _, _ => by simp [walk]
  | [], _ :: _, _, hlen, _ => by simp at hlen
  | _ :: _, [], _, hlen, _ => by simp at hlen
  | line :: text, entry :: entries, state, hlen, hf => by
    have hlen' : entries.length = text.length := by simpa using hlen
    have ih := walk_count r lang text entries
    -- the count over the lines after the first, from the state the first line ends in
    have hshift : ((Finset.range (line :: text).length).filter
        fun i => staleAt (r.tokenizeLine lang) (line :: text) (entry :: entries) state i).card =
        (if staleAt (r.tokenizeLine lang) (line :: text) (entry :: entries) state 0 then 1 else 0) +
          ((Finset.range text.length).filter fun i => staleAt (r.tokenizeLine lang) text entries
            (r.tokenizeLine lang line state).endState i).card := by
      rw [List.length_cons, Finset.card_filter, Finset.card_filter, Finset.sum_range_succ',
        add_comm]
      rfl
    rw [hshift, staleAt_cons_zero]
    have hfresh : (walk.fresh r lang line text entries state).2 =
        ((Finset.range text.length).filter fun i => staleAt (r.tokenizeLine lang) text entries
          (r.tokenizeLine lang line state).endState i).card + 1 := by
      simp [walk.fresh, ih _ hlen' hf.tail]
    cases entry with
    | none => simp [walk, hfresh, Nat.add_comm]
    | some e =>
      by_cases hs : e.startState = state
      · -- a kept entry ends in the state the line ends in
        have he : r.tokenizeLine lang line state = ⟨e.spans, e.endState⟩ := hs ▸ hf.get 0 rfl rfl
        simp [walk, hs, he, ih _ hlen' hf.tail]
      · simp [walk, hs, hfresh, Nat.add_comm]

theorem getElem?_resized {lines : Array (Option CachedLine)} {n i : Nat} (hi : i < n) :
    (resized lines n)[i]? = some lines[i]?.join := by
  unfold resized
  split
  · simp [hi, show i < lines.size by omega]
  · rw [Array.getElem?_append]
    split
    · simp [*]
    · simp [Array.getElem?_replicate, Array.getElem?_eq_none (Nat.le_of_not_lt ‹_›)]
      omega

theorem staleAt_resized {tok : String → LineState → LineResult} {text : List String}
    {lines : Array (Option CachedLine)} {state : LineState} {i : Nat} (hi : i < text.length) :
    staleAt tok text (resized lines text.length).toList state i =
      staleAt tok text lines.toList state i := by
  unfold staleAt
  rw [Array.getElem?_toList, Array.getElem?_toList, getElem?_resized hi]
  cases lines[i]? with
  | none => rfl
  | some x => cases x <;> rfl

theorem refresh_count (c : LineCache) (r : Registry) (text : List String)
    (hf : Faithful (r.tokenizeLine c.language) text c.lines.toList) :
    (c.refresh r text).2 = ((Finset.range text.length).filter
      fun i => staleAt (r.tokenizeLine c.language) text c.lines.toList .code i).card := by
  have hres : Faithful (r.tokenizeLine c.language) text (resized c.lines text.length).toList := by
    unfold Faithful
    intro i e line he hl
    exact hf.get i (by simpa using getElem?_resized_of_some (by simpa using he)) hl
  have h := walk_count r c.language text (resized c.lines text.length).toList .code (by simp) hres
  simp only [refresh]
  rw [h]
  congr 1
  exact Finset.filter_congr fun i hi => by rw [staleAt_resized (Finset.mem_range.1 hi)]

theorem getElem?_refresh (c : LineCache) (r : Registry) (text : List String)
    (hf : Faithful (r.tokenizeLine c.language) text c.lines.toList) {i : Nat} (hi : i < text.length) :
    (c.refresh r text).1.lines[i]? = some (some
      ⟨stateBefore (r.tokenizeLine c.language) text .code i,
        (r.tokenizeLine c.language text[i] (stateBefore (r.tokenizeLine c.language) text .code i)).endState,
        (r.tokenizeLine c.language text[i] (stateBefore (r.tokenizeLine c.language) text .code i)).spans⟩) := by
  rw [← Array.getElem?_toList, refresh_lines c r text hf, List.getElem?_map, getElem?_freshEntries,
    List.getElem?_eq_getElem hi]
  rfl

theorem getElem?_refresh_of_fresh (c : LineCache) (r : Registry) (text : List String)
    (hf : Faithful (r.tokenizeLine c.language) text c.lines.toList) {i : Nat} (hi : i < text.length)
    (hs : staleAt (r.tokenizeLine c.language) text c.lines.toList .code i = false) :
    (c.refresh r text).1.lines[i]? = c.lines[i]? := by
  rw [getElem?_refresh c r text hf hi]
  unfold staleAt at hs
  split at hs
  · rename_i e he
    -- the entry was made from the state the line starts in, so it is what highlighting gives
    have hstart : e.startState = stateBefore (r.tokenizeLine c.language) text .code i := by
      simpa using hs
    have htok := hf.get i he (List.getElem?_eq_getElem hi)
    rw [← Array.getElem?_toList, he, ← hstart, htok]
  · cases hs

theorem refresh_of_fresh (c : LineCache) (r : Registry) (text : List String)
    (h : c.lines.toList = (freshEntries (r.tokenizeLine c.language) text .code).map some) :
    c.refresh r text = (c, 0) := by
  have hf : Faithful (r.tokenizeLine c.language) text c.lines.toList := by
    rw [h]
    exact faithful_freshEntries _ _ _
  have hnone : ∀ i ∈ Finset.range text.length,
      ¬ staleAt (r.tokenizeLine c.language) text c.lines.toList .code i = true := by
    intro i hi
    rw [Finset.mem_range] at hi
    simp [staleAt, h, getElem?_freshEntries, List.getElem?_eq_getElem hi]
  have hlines : (c.refresh r text).1.lines = c.lines :=
    Array.toList_inj.1 ((refresh_lines c r text hf).trans h.symm)
  rw [Prod.ext_iff, refresh_count c r text hf, Finset.filter_false_of_mem hnone, Finset.card_empty]
  refine ⟨?_, rfl⟩
  obtain ⟨lang, lines⟩ := c
  simpa [refresh] using hlines

section Edit
variable (c : LineCache) (r : Registry) (text : List String) {k : Nat} (line : String)

/-- **The cascade of one edit.** After a refresh, change line `k` and forget it.  Let `m > k` be
the first line that starts in the state it started in before, or the end of the text.  Then the
stale lines are exactly `k` to `m - 1`: the lines before `k` start as before, and from `m` on the
lines are the old ones again, starting as before. -/
theorem staleAt_editLine_iff (hf : Faithful (r.tokenizeLine c.language) text c.lines.toList)
    (hk : k < text.length) {m : Nat} (hkm : k < m) (hm : m ≤ text.length)
    (hbetween : ∀ j, k < j → j < m → stateBefore (r.tokenizeLine c.language) (text.set k line) .code j ≠
      stateBefore (r.tokenizeLine c.language) text .code j)
    (hsettle : m < text.length → stateBefore (r.tokenizeLine c.language) (text.set k line) .code m =
      stateBefore (r.tokenizeLine c.language) text .code m)
    {i : Nat} (hi : i < text.length) :
    staleAt (r.tokenizeLine c.language) (text.set k line) ((c.refresh r text).1.editLine k).lines.toList
      .code i = true ↔ k ≤ i ∧ i < m := by
  have hlen : (text.set k line).length = text.length := List.length_set
  have hentry : ((c.refresh r text).1.editLine k).lines.toList[i]? =
      if k = i then some none else (c.refresh r text).1.lines[i]? := by
    rw [Array.getElem?_toList]
    simp only [editLine, Array.getElem?_setIfInBounds]
    split
    · have hsize : (c.refresh r text).1.lines.size = text.length := len_refresh c r text
      simp [hsize, hk]
    · rfl
  unfold staleAt
  rw [hentry]
  by_cases hki : k = i
  · subst hki
    simp [hkm]
  · rw [if_neg hki, getElem?_refresh c r text hf hi]
    simp only [bne_iff_ne, ne_eq]
    rcases Nat.lt_or_gt_of_ne hki with hki' | hik
    · by_cases him : i < m
      · simp only [him, show k ≤ i by omega, and_self, iff_true]
        exact fun h => hbetween i hki' him h.symm
      · -- from `m` on the lines are the old ones, and line `m` starts as before
        have := stateBefore_eq_of_agree hlen (hsettle (by omega)) i (by omega) (by omega)
          fun j hj _ => List.getElem?_set_ne (by omega)
        simp only [this, not_true_eq_false, false_iff, not_and]
        omega
    · -- the lines before `k` are the same, from the same first state
      have h₀ : stateBefore (r.tokenizeLine c.language) (text.set k line) .code 0 =
          stateBefore (r.tokenizeLine c.language) text .code 0 := by simp
      have := stateBefore_eq_of_agree hlen h₀ i (Nat.zero_le _) (by omega)
        fun j _ hj => List.getElem?_set_ne (by omega)
      simp only [this, not_true_eq_false, false_iff, not_and]
      omega

theorem refresh_editLine_count (hf : Faithful (r.tokenizeLine c.language) text c.lines.toList)
    (hk : k < text.length) {m : Nat} (hkm : k < m) (hm : m ≤ text.length)
    (hbetween : ∀ j, k < j → j < m → stateBefore (r.tokenizeLine c.language) (text.set k line) .code j ≠
      stateBefore (r.tokenizeLine c.language) text .code j)
    (hsettle : m < text.length → stateBefore (r.tokenizeLine c.language) (text.set k line) .code m =
      stateBefore (r.tokenizeLine c.language) text .code m) :
    (((c.refresh r text).1.editLine k).refresh r (text.set k line)).2 = m - k := by
  have hf₁ : Faithful (r.tokenizeLine c.language) text (c.refresh r text).1.lines.toList := by
    rw [refresh_lines c r text hf]
    exact faithful_freshEntries _ _ _
  have hf₂ := faithful_editLine hf₁ k line
  have hlang : ((c.refresh r text).1.editLine k).language = c.language := rfl
  rw [refresh_count _ r _ hf₂, hlang]
  have hIco : ((Finset.range (text.set k line).length).filter fun i =>
      staleAt (r.tokenizeLine c.language) (text.set k line)
        ((c.refresh r text).1.editLine k).lines.toList .code i) = Finset.Ico k m := by
    ext i
    simp only [Finset.mem_filter, Finset.mem_range, List.length_set, Finset.mem_Ico]
    constructor
    · rintro ⟨hi, hs⟩
      exact (staleAt_editLine_iff c r text line hf hk hkm hm hbetween hsettle hi).1 hs
    · rintro ⟨hki, him⟩
      exact ⟨by omega, (staleAt_editLine_iff c r text line hf hk hkm hm hbetween hsettle
        (by omega)).2 ⟨hki, him⟩⟩
  rw [hIco, Nat.card_Ico]

end Edit

/-- **A refresh highlights exactly the stale lines.**  A line is stale when its entry is missing or
was made from another state than it starts in from scratch; after an edit the stale lines run from
it up to the first line whose start state settles. -/
theorem refresh_highlights_stale_lines (c : LineCache) (r : Registry) (text : List String)
    (hf : Faithful (r.tokenizeLine c.language) text c.lines.toList) :
    let tok := r.tokenizeLine c.language
    let c₁ := (c.refresh r text).1
    (c.refresh r text).2 = ((Finset.range text.length).filter
        fun i => staleAt tok text c.lines.toList .code i).card ∧
      (∀ i (hi : i < text.length),
        c₁.lines[i]? = some (some ⟨stateBefore tok text .code i,
          (tok text[i] (stateBefore tok text .code i)).endState,
          (tok text[i] (stateBefore tok text .code i)).spans⟩) ∧
        (staleAt tok text c.lines.toList .code i = false → c₁.lines[i]? = c.lines[i]?)) ∧
      c₁.refresh r text = (c₁, 0) ∧
      ∀ k line m, k < text.length → k < m → m ≤ text.length →
        (∀ j, k < j → j < m →
          stateBefore tok (text.set k line) .code j ≠ stateBefore tok text .code j) →
        (m < text.length →
          stateBefore tok (text.set k line) .code m = stateBefore tok text .code m) →
        (∀ i, i < text.length →
          (staleAt tok (text.set k line) (c₁.editLine k).lines.toList .code i = true ↔
            k ≤ i ∧ i < m)) ∧
        ((c₁.editLine k).refresh r (text.set k line)).2 = m - k := by
  intro tok c₁
  refine ⟨refresh_count c r text hf, fun i hi => ⟨getElem?_refresh c r text hf hi,
      getElem?_refresh_of_fresh c r text hf hi⟩, refresh_of_fresh c₁ r text (refresh_lines c r text hf),
    fun k line m hk hkm hm hbetween hsettle => ⟨fun i hi => ?_, ?_⟩⟩
  · exact staleAt_editLine_iff c r text line hf hk hkm hm hbetween hsettle hi
  · exact refresh_editLine_count c r text line hf hk hkm hm hbetween hsettle

/-- A configuration text highlighted once, then its second line changed and its entry forgotten:
the cache keeps the entries of the first and third lines, made for the old text. -/
theorem refresh_highlights_stale_lines_after_edit :
    let text := ["a = 1", "/* b", "c */"]
    let c := ((LineCache.new .config).refresh .initial text).1.editLine 1
    let text' := text.set 1 "b"
    let tok := Registry.initial.tokenizeLine c.language
    let c₁ := (c.refresh .initial text').1
    Faithful tok text' c.lines.toList ∧
      ((c.refresh .initial text').2 = ((Finset.range text'.length).filter
        fun i => staleAt tok text' c.lines.toList .code i).card ∧
      (∀ i (hi : i < text'.length),
        c₁.lines[i]? = some (some ⟨stateBefore tok text' .code i,
          (tok text'[i] (stateBefore tok text' .code i)).endState,
          (tok text'[i] (stateBefore tok text' .code i)).spans⟩) ∧
        (staleAt tok text' c.lines.toList .code i = false → c₁.lines[i]? = c.lines[i]?)) ∧
      c₁.refresh .initial text' = (c₁, 0) ∧
      ∀ k line m, k < text'.length → k < m → m ≤ text'.length →
        (∀ j, k < j → j < m →
          stateBefore tok (text'.set k line) .code j ≠ stateBefore tok text' .code j) →
        (m < text'.length →
          stateBefore tok (text'.set k line) .code m = stateBefore tok text' .code m) →
        (∀ i, i < text'.length →
          (staleAt tok (text'.set k line) (c₁.editLine k).lines.toList .code i = true ↔
            k ≤ i ∧ i < m)) ∧
        ((c₁.editLine k).refresh .initial (text'.set k line)).2 = m - k) := by
  intro text c text' tok c₁
  have hnew : Faithful tok text (LineCache.new .config).lines.toList :=
    faithful_of_forgotten (by simp [LineCache.new])
  have hfirst : Faithful tok text ((LineCache.new .config).refresh .initial text).1.lines.toList := by
    rw [refresh_lines _ _ _ hnew]
    exact faithful_freshEntries tok text .code
  have hf : Faithful tok text' c.lines.toList := faithful_editLine hfirst 1 "b"
  exact ⟨hf, refresh_highlights_stale_lines c .initial text' hf⟩

end LineCache

end Highlight
