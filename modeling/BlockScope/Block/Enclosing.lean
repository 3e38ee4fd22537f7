import BlockScope.Block.Scan

/-!
The name of the innermost open block, read backwards from the cursor. A brace that no closing
brace behind it matches is open. Its name is that of the header before it on its line, or else of
the header that the line above ends with. An open brace without a name is passed over, and the
search goes on from it.
-/

set_option autoImplicit false
set_option relaxedAutoImplicit false

namespace BlockScope

/-- The name of an opening brace, from the text before it on its line and the lines above, the
nearest first. -/
def braceName? (before : List Char) (above : List (List Char)) : Option String :=
  match Header.atEnd? before with
  | some header => some header.name
  | none => do
    let line ← above.head?
    let header ← Header.atEnd? (uncommented line)
    return header.name

/-- How the search through one line ends: at the name of an open brace, or at the beginning of the
line with closing braces that still await theirs. -/
inductive LineSearch where
  | found (name : String)
  | passed (awaiting : Nat)
  deriving DecidableEq, Repr

/-- Searches the text of a line, given reversed, with the lines above it. -/
def searchLine (above : List (List Char)) : Nat → List Char → LineSearch
  | awaiting, [] => .passed awaiting
  | awaiting, c :: before =>
    if c = '}' then searchLine above (awaiting + 1) before
    else if c = '{' then
      match awaiting with
      | outer + 1 => searchLine above outer before
      | 0 => match braceName? before.reverse above with
        | some name => .found name
        | none => searchLine above 0 before
    else searchLine above awaiting before

/-- Searches lines, the nearest first. -/
def searchLines : Nat → List (List Char) → Option String
  | _, [] => none
  | awaiting, line :: above =>
    match searchLine above awaiting (uncommented line).reverse with
    | .found name => some name
    | .passed awaiting => searchLines awaiting above

/-- The lines before a position, the last one cut there. -/
def linesBefore (lines : List (List Char)) (position : Position) : List (List Char) :=
  lines.take position.line ++
    ((lines.drop position.line).head?.map (·.take position.character)).toList

/-- The name of the innermost open block that has one. -/
def enclosingName? (lines : List (List Char)) (line character : Int) :
    Except ScanError (Option String) :=
  (scanPosition line character).map fun position ↦
    searchLines 0 (linesBefore lines position).reverse

end BlockScope
