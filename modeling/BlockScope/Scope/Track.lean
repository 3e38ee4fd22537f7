import BlockScope.Scope.Vocabulary
import BlockScope.Text.DecimalDigit
import BlockScope.Text.LineFeed

/-!
The type of object that the innermost block talks about. Going inwards, a saved reference makes the
type indeterminate, the number of a tier or level changes nothing, a name with an output type
changes the type to it, and any other name changes nothing.
-/

set_option autoImplicit false
set_option relaxedAutoImplicit false

namespace BlockScope

/-- The sign before the name of a saved reference. -/
def referenceMark : List Char := ['s', 'c', 'o', 'p', 'e', ':']

/-- Characters that a plain identifier begins with. -/
def isIdentifierStart (c : Char) : Bool := c.isAlpha || c == '_'

def isIdentifierChar (c : Char) : Bool := c.isAlphanum || c == '_'

def isIdentifier : List Char → Bool
  | [] => false
  | first :: rest => isIdentifierStart first && rest.all isIdentifierChar

/-- Names of saved references, such as `scope:actor`: the mark and a plain identifier. -/
def isScopeReference (name : String) : Bool :=
  let text := withoutFinalLineFeed name.toList
  referenceMark.isPrefixOf text && isIdentifier (text.drop referenceMark.length)

/-- Names of tiers and levels, such as the `50` of `track = { 50 = { } }`. -/
def isNumericName (name : String) : Bool :=
  let digits := withoutFinalLineFeed name.toList
  !digits.isEmpty && digits.all isDecimalDigit

/-- The type inside a block with a name, from the type around it. -/
def trackName (vocabulary : Vocabulary) (current : ObjectType) (name : String) : ObjectType :=
  if isScopeReference name then .indeterminate
  else if isNumericName name then current
  else (vocabulary.outputType? name).getD current

/-- The type inside the innermost block of a path, from the type at the root. -/
def trackScope (vocabulary : Vocabulary) (path : List String) (root : ObjectType) : ObjectType :=
  path.foldl (trackName vocabulary) root

end BlockScope
