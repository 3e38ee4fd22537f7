import BlockScope.Text.Position

/-!
Where the lines of a text begin. The map turns a position into an offset and back. A character
beyond the end of its line stands for the end of that line, and a line beyond the last one for the
end of the text. Offsets are reckoned in integers and checked before a span is made of them. Only
the line feed ends a line: a carriage return before it belongs to the line.
-/

set_option autoImplicit false
set_option relaxedAutoImplicit false

namespace BlockScope

structure LineMap where
  /-- The offsets at which the lines begin, in order. -/
  starts : List Nat
  length : Nat
  deriving DecidableEq, Repr

namespace LineMap

/-- The offsets behind the line feeds of a text that begins at `offset`. -/
def startsAfter (offset : Nat) : List Char → List Nat
  | [] => []
  | c :: rest =>
    if c = '\n' then (offset + 1) :: startsAfter (offset + 1) rest
    else startsAfter (offset + 1) rest

def ofText (text : List Char) : LineMap := ⟨0 :: startsAfter 0 text, text.length⟩

def lineCount (map : LineMap) : Nat := map.starts.length

/-- The end of a line, reckoned as the place one before the beginning of the next line. The last
line ends with the text. -/
def lineEnd (map : LineMap) (line : Nat) : Int :=
  match map.starts[line + 1]? with
  | some next => next - 1
  | none => map.length

/-- The offset of a position as it is reckoned. Whether it is one is checked by `offsetOf`. -/
def reckonedOffset (map : LineMap) (position : Position) : Int :=
  match map.starts[position.line]? with
  | some start => min (start + position.character) (map.lineEnd position.line)
  | none => map.length

def offsetAt (map : LineMap) (position : Position) : Nat := (map.reckonedOffset position).toNat

/-- The last line that does not begin after the offset, and the distance from its beginning. -/
def positionAt (map : LineMap) (offset : Nat) : Position :=
  let clamped := min offset map.length
  let line := map.starts.countP (· ≤ clamped) - 1
  ⟨line, clamped - map.starts.getD line 0⟩

/-- The offset of two coordinates, refused if they are not a position or give no offset. -/
def offsetOn (map : LineMap) (line character : Int) : Except PlaceError Nat := do
  let position ← Position.of line character
  offsetOf (map.reckonedOffset position)

/-- The span between two characters of a line. -/
def spanOn (map : LineMap) (line first last : Int) : Except PlaceError Span := do
  let start ← map.offsetOn line first
  let stop ← map.offsetOn line last
  Span.ofOffsets start stop

end LineMap

end BlockScope
