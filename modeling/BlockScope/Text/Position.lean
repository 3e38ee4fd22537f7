/-!
Places in a text: an absolute offset, a line with a character on it, and a span between two
offsets. All of them are counted in characters from zero. Coordinates arrive as integers, and the
negative ones are refused here.
-/

set_option autoImplicit false
set_option relaxedAutoImplicit false

namespace BlockScope

/-- Why a place in a text is refused. -/
inductive PlaceError where
  | negativeOffset
  | negativePosition
  | negativeSpan
  | invertedSpan
  deriving DecidableEq, Repr

def PlaceError.message : PlaceError → String
  | .negativeOffset => "TextSize cannot be negative"
  | .negativePosition => "LinePosition cannot be negative"
  | .negativeSpan => "TextRange positions cannot be negative"
  | .invertedSpan => "TextRange invariant violated: start > end"

/-- An absolute offset. -/
def offsetOf (value : Int) : Except PlaceError Nat :=
  if value < 0 then .error .negativeOffset else .ok value.toNat

def offsetLabel (offset : Nat) : String := s!"TextSize({offset})"

structure Position where
  line : Nat
  character : Nat
  deriving DecidableEq, Repr

def Position.of (line character : Int) : Except PlaceError Position :=
  if line < 0 ∨ character < 0 then .error .negativePosition
  else .ok ⟨line.toNat, character.toNat⟩

/-- The characters from offset `start` up to, and not including, offset `stop`. -/
structure Span where
  start : Nat
  stop : Nat
  start_le_stop : start ≤ stop
  deriving DecidableEq, Repr

namespace Span

def ofOffsets (start stop : Nat) : Except PlaceError Span :=
  if h : start ≤ stop then .ok ⟨start, stop, h⟩ else .error .invertedSpan

def of (start stop : Int) : Except PlaceError Span :=
  if start < 0 ∨ stop < 0 then .error .negativeSpan else ofOffsets start.toNat stop.toNat

/-- The characters of a text that the span covers. -/
def slice (span : Span) (text : List Char) : List Char :=
  (text.drop span.start).take (span.stop - span.start)

def label (span : Span) : String :=
  let start := span.start
  let stop := span.stop
  s!"TextRange({start}, {stop})"

end Span

end BlockScope
