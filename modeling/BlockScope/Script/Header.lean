import BlockScope.Script.Operator
import BlockScope.Text.Alphanumeric
import BlockScope.Text.Blank
import BlockScope.Text.Occurrence

/-!
Block headers, such as `limit = {` or `age >= {`. A header is a name and an operator, with blanks
allowed behind each of them. The brace may follow on the same line, and then the header opens the
brace, or the line may end there, and then the header is left dangling for the next line.
-/

set_option autoImplicit false
set_option relaxedAutoImplicit false

namespace BlockScope

/-- Characters of a name: word characters and the signs of chains, references and parameters. -/
def isNameChar (c : Char) : Bool := isWord c || c == '.' || c == ':' || c == '$'

structure Header where
  name : String
  operator : BlockOperator
  deriving DecidableEq, Repr

namespace Header

/-- The header at the front of a text and what follows it, from the next character that is not
blank. The name is as long as it can be. -/
def read? (text : List Char) : Option (Header × List Char) :=
  let name := text.takeWhile isNameChar
  if name.isEmpty then none
  else match BlockOperator.read? ((text.dropWhile isNameChar).dropWhile isBlank) with
    | none => none
    | some (operator, rest) => some (⟨String.ofList name, operator⟩, rest.dropWhile isBlank)

/-- Recognises a header together with the brace that it opens. -/
def opening : Recogniser Header := fun _ text ↦
  match read? text with
  | some (header, '{' :: rest) => some (header, text.length - rest.length)
  | _ => none

/-- Recognises a header behind which only blanks follow. -/
def dangling : Recogniser Header := fun _ text ↦
  match read? text with
  | some (header, []) => some (header, text.length)
  | _ => none

/-- The headers of a line that open a brace. Each occurrence ends behind its brace. -/
def openings (line : List Char) : List (Occurrence Header) := occurrences opening line

/-- The header that a line ends with. -/
def atEnd? (line : List Char) : Option Header :=
  (occurrences dangling line).head?.map (·.value)

end Header

end BlockScope
