import BlockScope.Script.Header
import BlockScope.Text.LineFeed

/-!
What is being typed on a line. Only the text before the cursor counts. Behind a field and an
equals sign a value is typed, or about to be typed; elsewhere it is a key. Inside a comment it is
nothing.
-/

set_option autoImplicit false
set_option relaxedAutoImplicit false

namespace BlockScope

/-- The shape of the text before the cursor. -/
structure CursorLine where
  /-- A value is expected: the cursor follows a field and its equals sign. -/
  afterEquals : Bool := false
  /-- The field on the left of the equals sign. -/
  fieldName : Option String := none
  /-- What has been typed of the value. -/
  partialValue : Option String := none
  /-- What has been typed of a key, where no value is being typed. -/
  partialKey : String := ""
  deriving DecidableEq, Repr

namespace CursorLine

/-- A field with its equals sign at the beginning of a text, and what follows from the next
character that is not blank. -/
def readAssignment? (text : List Char) : Option (String × List Char) :=
  let trimmed := text.dropWhile isBlank
  let field := trimmed.takeWhile isNameChar
  if field.isEmpty then none
  else match (trimmed.dropWhile isNameChar).dropWhile isBlank with
    | '=' :: rest => some (String.ofList field, rest.dropWhile isBlank)
    | _ => none

/-- A value that has been begun: characters that are not blank, up to the end of the text or to
the line feed there. A lone opening brace begins a block and not a value. -/
def readValue? (text : List Char) : Option String :=
  let value := withoutFinalLineFeed text
  if value.isEmpty || value.any isBlank || value == ['{'] then none
  else some (String.ofList value)

/-- Whether a key may begin behind a character, or at the beginning of the text. -/
def mayPrecedePartialKey : Option Char → Bool
  | none => true
  | some c => isBlank c || c == '{' || c == '}'

/-- The name characters at the end of a text, where a key may begin there. -/
def partialKeyOf (text : List Char) : String :=
  let reversed := (withoutFinalLineFeed text).reverse
  if mayPrecedePartialKey (reversed.dropWhile isNameChar).head? then
    String.ofList (reversed.takeWhile isNameChar).reverse
  else ""

/-- The shape of a text that ends at the cursor. -/
def ofText (text : List Char) : CursorLine :=
  if text.contains '#' then {}
  else match readAssignment? text with
    | some (field, []) => { afterEquals := true, fieldName := some field }
    | some (field, rest) =>
      match readValue? rest with
      | some value => { fieldName := some field, partialValue := some value }
      | none => { partialKey := partialKeyOf text }
    | none => { partialKey := partialKeyOf text }

/-- The shape of a line at a cursor. A negative cursor stands at the beginning. -/
def ofLine (line : List Char) (character : Int) : CursorLine := ofText (line.take character.toNat)

end CursorLine

end BlockScope
