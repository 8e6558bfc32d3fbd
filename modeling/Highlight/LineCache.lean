import Highlight.Registry

/-!
# The highlighting cache of a document

A cache keeps, for each line of one document, the spans it was given, the state it was
highlighted from and the state it ends in, or nothing when the line must be highlighted again.
Edits forget lines; `LineCache.refresh` brings the cache up to date with the document's text and
highlights only what it must: a line whose entry is missing, or whose entry was made from another
state than the one the line before it now ends in.  So a changed state flows forward until a line
ends as it did before.

`LineCache.highlightAll` forgets everything first and so highlights every line, which is what
highlighting the whole text from scratch gives.
-/

namespace Highlight

structure CachedLine where
  startState : LineState
  endState : LineState
  spans : List Span
  deriving DecidableEq, Repr, Inhabited

structure LineCache where
  language : Language
  lines : Array (Option CachedLine)

namespace LineCache

def new (language : Language) : LineCache := ⟨language, #[]⟩

def invalidateAll (c : LineCache) : LineCache := { c with lines := c.lines.map fun _ => none }

/-- Switches the language; every line is highlighted again on the next refresh. -/
def setLanguage (c : LineCache) (language : Language) : LineCache :=
  { c with language }.invalidateAll

/-- The text of line `idx` changed: forgets it, when there is such a line. -/
def editLine (c : LineCache) (idx : Nat) : LineCache :=
  { c with lines := c.lines.setIfInBounds idx none }

def insertLine (c : LineCache) (idx : Nat) : LineCache :=
  let i := min idx c.lines.size
  { c with lines := (c.lines.extract 0 i).push none ++ c.lines.extract i c.lines.size }

def removeLine (c : LineCache) (idx : Nat) : LineCache :=
  { c with lines := c.lines.eraseIdxIfInBounds idx }

def resized (lines : Array (Option CachedLine)) (n : Nat) : Array (Option CachedLine) :=
  if n ≤ lines.size then lines.extract 0 n else lines ++ Array.replicate (n - lines.size) none

/-- Walks the lines from state `state`: keeps an entry made from the state the line now starts
in, highlights the others.  Answers the new entries and how many lines were highlighted. -/
def walk (r : Registry) (lang : Language) :
    List String → List (Option CachedLine) → LineState → List (Option CachedLine) × Nat
  | line :: text, entry :: entries, state =>
    match entry with
    | some e =>
      if e.startState == state then
        let (rest, n) := walk r lang text entries e.endState
        (some e :: rest, n)
      else fresh line text entries state
    | none => fresh line text entries state
  | _, _, _ => ([], 0)
where
  fresh (line : String) (text : List String) (entries : List (Option CachedLine))
      (state : LineState) : List (Option CachedLine) × Nat :=
    let res := r.tokenizeLine lang line state
    let (rest, n) := walk r lang text entries res.endState
    (some ⟨state, res.endState, res.spans⟩ :: rest, n + 1)

/-- Brings the cache up to date with the lines `text`, answering how many lines were
highlighted. -/
def refresh (c : LineCache) (r : Registry) (text : List String) : LineCache × Nat :=
  let lines := resized c.lines text.length
  let (lines, n) := walk r c.language text lines.toList .code
  ({ c with lines := lines.toArray }, n)

def highlightAll (c : LineCache) (r : Registry) (text : List String) : LineCache × Nat :=
  c.invalidateAll.refresh r text

def len (c : LineCache) : Nat := c.lines.size

def isEmpty (c : LineCache) : Bool := c.lines.isEmpty

def lineSpans (c : LineCache) (idx : Nat) : Option (List Span) :=
  c.lines[idx]?.bind (·.map (·.spans))

def endState (c : LineCache) (idx : Nat) : Option LineState :=
  c.lines[idx]?.bind (·.map (·.endState))

@[simp] theorem len_new (language : Language) : (LineCache.new language).len = 0 := rfl

@[simp] theorem len_invalidateAll (c : LineCache) : c.invalidateAll.len = c.len := by
  simp [invalidateAll, len]

@[simp] theorem len_setLanguage (c : LineCache) (language : Language) :
    (c.setLanguage language).len = c.len := by
  simp [setLanguage, len, invalidateAll]

@[simp] theorem len_editLine (c : LineCache) (idx : Nat) : (c.editLine idx).len = c.len := by
  simp [editLine, len]

@[simp] theorem len_insertLine (c : LineCache) (idx : Nat) : (c.insertLine idx).len = c.len + 1 := by
  simp only [insertLine, len, Array.size_append, Array.size_push, Array.size_extract]
  omega

theorem len_removeLine (c : LineCache) (idx : Nat) :
    (c.removeLine idx).len = if idx < c.len then c.len - 1 else c.len := by
  simp only [removeLine, Array.eraseIdxIfInBounds]
  by_cases h : idx < c.lines.size
  · simp [len, h]
  · simp [len, h]

@[simp] theorem size_resized (lines : Array (Option CachedLine)) (n : Nat) :
    (resized lines n).size = n := by
  unfold resized
  split
  · simp only [Array.size_extract]
    omega
  · simp only [Array.size_append, Array.size_replicate]
    omega

theorem length_walk (r : Registry) (lang : Language) :
    ∀ (text : List String) (entries : List (Option CachedLine)) (state : LineState),
      (walk r lang text entries state).1.length = min text.length entries.length
  | [], _, _ => by simp [walk]
  | _ :: _, [], _ => by simp [walk]
  | line :: text, entry :: entries, state => by
    have hf : ∀ st, (walk.fresh r lang line text entries st).1.length =
        min text.length entries.length + 1 := by
      intro st
      simp [walk.fresh, length_walk r lang text entries]
    rcases entry with _ | e
    · simp [walk, hf, Nat.succ_min_succ]
    · by_cases h : e.startState = state
      · simp [walk, h, length_walk r lang text entries, Nat.succ_min_succ]
      · simp [walk, h, hf, Nat.succ_min_succ]

@[simp] theorem len_refresh (c : LineCache) (r : Registry) (text : List String) :
    (c.refresh r text).1.len = text.length := by
  simp [refresh, len, length_walk]

@[simp] theorem len_highlightAll (c : LineCache) (r : Registry) (text : List String) :
    (c.highlightAll r text).1.len = text.length := by
  simp [highlightAll]

end LineCache

end Highlight
