/-!
Comments. A number sign begins a comment that runs to the end of its line, wherever it stands.
-/

set_option autoImplicit false
set_option relaxedAutoImplicit false

namespace BlockScope

/-- A line up to its comment. -/
def uncommented (line : List Char) : List Char := line.takeWhile (· != '#')

/-- What stands in a line before a column, up to the comment. -/
def uncommentedBefore (line : List Char) (column : Nat) : List Char :=
  uncommented (line.take column)

/-- A line without its comment and without what follows a cutoff, if there is one. A negative
cutoff is counted from the end of the line, and then the comment stays. -/
def stripComment (line : List Char) : Option Int → List Char
  | none => uncommented line
  | some cutoff =>
    if 0 ≤ cutoff then uncommentedBefore line cutoff.toNat
    else line.take (line.length - cutoff.natAbs)

end BlockScope
