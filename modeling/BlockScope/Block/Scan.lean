import BlockScope.Block.Nesting
import BlockScope.Script.Comment
import BlockScope.Text.Document

/-!
The nesting at a position, read from the top of the document. On the line of the position only the
text before it counts, so that a comment behind the cursor hides nothing before it. A line beyond
the last one stands for the end of the document.
-/

set_option autoImplicit false
set_option relaxedAutoImplicit false

namespace BlockScope

/-- Why a scan is refused or stopped. -/
inductive ScanError where
  | negativePosition
  | outOfOrder
  deriving DecidableEq, Repr

def ScanError.message : ScanError → String
  | .negativePosition => "Scan position cannot be negative"
  | .outOfOrder => "Scan points must be in document order"

/-- What counts of a line for the nesting at a position. -/
def visibleText (source : LineSource) (position : Position) (number : Nat) : List Char :=
  if number = position.line then uncommentedBefore (source.line number) position.character
  else uncommented (source.line number)

/-- The nesting at a position. -/
def nestingBefore (source : LineSource) (position : Position) : Nesting :=
  (List.range (min (position.line + 1) source.count.toNat)).foldl
    (fun nesting number ↦ nesting.walk number (braceMarks (visibleText source position number)))
    .empty

/-- The position of two coordinates, refused if one of them is negative. -/
def scanPosition (line character : Int) : Except ScanError Position :=
  if line < 0 ∨ character < 0 then .error .negativePosition
  else .ok ⟨line.toNat, character.toNat⟩

def scanAt (source : LineSource) (line character : Int) : Except ScanError Nesting :=
  (scanPosition line character).map (nestingBefore source)

end BlockScope
