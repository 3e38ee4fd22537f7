import BlockScope.Script.Comment
import BlockScope.Text.Position

/-!
The braces of a document that have no partner. Each closing brace is the partner of the nearest
opening brace before it that has none yet.
-/

set_option autoImplicit false
set_option relaxedAutoImplicit false

namespace BlockScope

structure UnmatchedBraces where
  /-- Opening braces without a partner, the latest first. -/
  openings : List Position
  /-- Closing braces without a partner, the latest first. -/
  closings : List Position
  deriving DecidableEq, Repr

namespace UnmatchedBraces

def meet (braces : UnmatchedBraces) (position : Position) (c : Char) : UnmatchedBraces :=
  if c = '{' then { braces with openings := position :: braces.openings }
  else if c = '}' then
    match braces.openings with
    | [] => { braces with closings := position :: braces.closings }
    | _ :: outer => { braces with openings := outer }
  else braces

/-- The unmatched braces after the text of a line, which begins at a column. -/
def meetLine (line : Nat) : Nat → UnmatchedBraces → List Char → UnmatchedBraces
  | _, braces, [] => braces
  | column, braces, c :: rest => meetLine line (column + 1) (braces.meet ⟨line, column⟩ c) rest

/-- The unmatched braces after some lines, the first of which has a number. -/
def meetLines : Nat → UnmatchedBraces → List (List Char) → UnmatchedBraces
  | _, braces, [] => braces
  | number, braces, line :: rest =>
    meetLines (number + 1) (meetLine number 0 braces (uncommented line)) rest

def ofLines (lines : List (List Char)) : UnmatchedBraces := meetLines 0 ⟨[], []⟩ lines

end UnmatchedBraces

end BlockScope
