import BlockScope.Text.LineMap
import BlockScope.Text.Pieces

/-!
A document and the lines that it is read by. Scans ask a line source for lines by number, so that
they also run over an editor's buffer that is not held as one text; a document is one such source.
-/

set_option autoImplicit false
set_option relaxedAutoImplicit false

namespace BlockScope

/-- Numbered lines. The count is the source's own word for how many there are. -/
structure LineSource where
  line : Nat → List Char
  count : Int

def LineSource.ofLines (lines : List (List Char)) : LineSource :=
  let stored := lines.toArray
  { line := fun number ↦ stored.getD number [], count := stored.size }

structure Document where
  chars : List Char
  deriving DecidableEq, Repr

namespace Document

def ofString (text : String) : Document := ⟨text.toList⟩

def lines (document : Document) : List (List Char) := pieces '\n' document.chars

def lineCount (document : Document) : Nat := document.lines.length

/-- A line by its number, empty where the document has none. -/
def line (document : Document) (number : Int) : List Char :=
  if number < 0 then [] else document.lines.getD number.toNat []

def lineMap (document : Document) : LineMap := .ofText document.chars

def source (document : Document) : LineSource := .ofLines document.lines

/-- The text that a span covers. -/
def slice (document : Document) (span : Span) : List Char := span.slice document.chars

end Document

end BlockScope
