import Highlight.Style
import Highlight.Text.Subject

/-!
# Spans

A span styles the bytes `start` to `stop` (exclusive) of one line with a style tag.  Spans of a
line may overlap; they are painted in order, so the last span over a byte decides its style
(`flatten`).  `flatten` gives every byte of the line an entry and clamps each span to the line, so
it accepts any span, also one whose ends are swapped or beyond the line.
-/

namespace Highlight

structure Span where
  start : Nat
  stop : Nat
  style : Style
  deriving DecidableEq, Repr, Inhabited

namespace Span

/-- The number of bytes of the span, `0` when its ends are swapped. -/
def len (s : Span) : Nat := s.stop - s.start

def isEmpty (s : Span) : Bool := s.stop ≤ s.start

def overlaps (s o : Span) : Bool := s.start < o.stop && o.start < s.stop

/-- The text of the line that the span covers, when its ends are in order, within the line and at
character boundaries. -/
def text? (s : Span) (line : String) : Option String :=
  (Subject.ofString line).slice? s.start s.stop

end Span

def paintRange (acc : Array (Option Style)) (a b : Nat) (st : Style) : Array (Option Style) :=
  (List.range' a (b - a)).foldl (fun acc i => acc.setIfInBounds i (some st)) acc

/-- The style of every byte of a line after painting the spans in order: each span over the bytes
from `min start stop'` to `stop'`, where `stop'` is its end clamped to the line. -/
def flatten (line : String) (spans : List Span) : Array (Option Style) :=
  let n := line.utf8ByteSize
  spans.foldl (fun acc sp =>
    let e := min sp.stop n
    paintRange acc (min sp.start e) e sp.style) (Array.replicate n none)

@[simp] theorem size_paintRange (acc : Array (Option Style)) (a b : Nat) (st : Style) :
    (paintRange acc a b st).size = acc.size := by
  unfold paintRange
  generalize List.range' a (b - a) = is
  induction is generalizing acc with
  | nil => rfl
  | cons i rest ih => simp [ih]

theorem size_foldl_paintRange (lo hi : Span → Nat) :
    ∀ (spans : List Span) (acc : Array (Option Style)),
      (spans.foldl (fun acc sp => paintRange acc (lo sp) (hi sp) sp.style) acc).size = acc.size
  | [], _ => rfl
  | sp :: rest, acc => by simp [size_foldl_paintRange lo hi rest]

@[simp] theorem size_flatten (line : String) (spans : List Span) :
    (flatten line spans).size = line.utf8ByteSize := by
  simp only [flatten]
  rw [size_foldl_paintRange (fun sp => min sp.start (min sp.stop line.utf8ByteSize))
    (fun sp => min sp.stop line.utf8ByteSize)]
  simp

end Highlight
