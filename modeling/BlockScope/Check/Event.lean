import BlockScope.Text.Position
import BlockScope.Text.Quoted

/-!
Events that a verbose run reports beside its results.
-/

set_option autoImplicit false
set_option relaxedAutoImplicit false

namespace BlockScope

inductive Event where
  /-- A scan has walked over a closing brace that closes nothing. -/
  | strayBrace (position : Position)
  /-- A chain has stopped at a segment that does not change the scope. -/
  | unknownSegment (chain segment : String)
  /-- A rule has finished. -/
  | ruleFinished (rule : String) (count : Nat)
  deriving DecidableEq, Repr

def Event.render : Event → String
  | .strayBrace ⟨line, character⟩ =>
    s!"DEBUG jominiscope.context.scanner: ignoring extra closing brace at {line}:{character}"
  | .unknownSegment chain segment =>
    "DEBUG jominiscope.context.paths: scope path " ++ quoted chain ++
      " stops at unknown segment " ++ quoted segment
  | .ruleFinished rule count =>
    s!"DEBUG jominiscope.typecheck.runner: rule {rule} reported {count} diagnostic(s)"

end BlockScope
