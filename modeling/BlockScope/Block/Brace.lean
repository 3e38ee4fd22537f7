import BlockScope.Script.Header

/-!
The braces of a line, in order, with the header that opens each of them.
-/

set_option autoImplicit false
set_option relaxedAutoImplicit false

namespace BlockScope

inductive Brace where
  /-- An opening brace, with the header that ends in it, if there is one. -/
  | opening (header : Option Header)
  | closing
  deriving DecidableEq, Repr

/-- A brace and the column where it stands. -/
structure BraceMark where
  column : Nat
  brace : Brace
  deriving DecidableEq, Repr

/-- The header among some that ends with the brace at a column. -/
def headerAt? (headers : List (Occurrence Header)) (column : Nat) : Option Header :=
  (headers.find? (·.stop == column + 1)).map (·.value)

/-- The braces of the rest of a line, which begins at a column. -/
def braceMarksFrom (headers : List (Occurrence Header)) : Nat → List Char → List BraceMark
  | _, [] => []
  | column, c :: rest =>
    if c = '{' then
      ⟨column, .opening (headerAt? headers column)⟩ :: braceMarksFrom headers (column + 1) rest
    else if c = '}' then
      ⟨column, .closing⟩ :: braceMarksFrom headers (column + 1) rest
    else braceMarksFrom headers (column + 1) rest

def braceMarks (line : List Char) : List BraceMark :=
  braceMarksFrom (Header.openings line) 0 line

end BlockScope
