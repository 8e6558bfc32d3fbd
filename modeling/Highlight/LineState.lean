import Highlight.Span

/-!
# Line states and highlighted lines

The state carried from one line to the next says whether the line ended inside an unterminated
block comment.  Every document starts in code.  Highlighting a line gives its spans, in painting
order, and the state for the next line.
-/

namespace Highlight

inductive LineState where
  | code
  | comment
  deriving DecidableEq, Repr, Inhabited

structure LineResult where
  spans : List Span
  endState : LineState
  deriving DecidableEq, Repr, Inhabited

/-- Highlights successive lines with a line highlighter: the first from state `state`, each later
one from the state the line before it ends in. -/
def threadLines (highlight : String → LineState → LineResult) :
    List String → LineState → List LineResult
  | [], _ => []
  | line :: rest, state =>
    let res := highlight line state
    res :: threadLines highlight rest res.endState

@[simp] theorem threadLines_nil (highlight : String → LineState → LineResult) (state : LineState) :
    threadLines highlight [] state = [] := rfl

@[simp] theorem threadLines_cons (highlight : String → LineState → LineResult) (line : String)
    (rest : List String) (state : LineState) :
    threadLines highlight (line :: rest) state =
      highlight line state :: threadLines highlight rest (highlight line state).endState := rfl

@[simp] theorem length_threadLines (highlight : String → LineState → LineResult) :
    ∀ (lines : List String) (state : LineState),
      (threadLines highlight lines state).length = lines.length
  | [], _ => rfl
  | _ :: rest, _ => by simp [length_threadLines highlight rest]

end Highlight
