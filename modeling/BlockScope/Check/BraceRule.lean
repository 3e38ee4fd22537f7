import BlockScope.Block.Unmatched
import BlockScope.Diagnostic
import BlockScope.Text.Document

/-!
The rule on braces. It reports the closing braces that have no partner and then the opening braces
that have none, both in document order. The codes of its diagnostics are fixed.
-/

set_option autoImplicit false
set_option relaxedAutoImplicit false

namespace BlockScope

/-- A diagnostic of a kind over the one character at a position. -/
def DiagnosticKind.overBrace (kind : DiagnosticKind) (map : LineMap) (position : Position) :
    Except PlaceError Diagnostic :=
  (map.spanOn position.line position.character (position.character + 1)).map kind.spanning

def braceDiagnostics (document : Document) : Except PlaceError (List Diagnostic) := do
  let map := document.lineMap
  let unmatched := UnmatchedBraces.ofLines document.lines
  let extra ← unmatched.closings.reverse.mapM (DiagnosticKind.extraClosingBrace.overBrace map)
  let unclosed ← unmatched.openings.reverse.mapM (DiagnosticKind.unclosedBlock.overBrace map)
  return extra ++ unclosed

end BlockScope
