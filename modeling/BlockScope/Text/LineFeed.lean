/-!
The line feed at the end of a text. A text that is taken from a file line by line may keep the line
feed, and the shape of a name or of a typed line does not depend on it.
-/

set_option autoImplicit false
set_option relaxedAutoImplicit false

namespace BlockScope

/-- A text without the line feed at its end, if it has one. -/
def withoutFinalLineFeed (text : List Char) : List Char :=
  match text.reverse with
  | '\n' :: rest => rest.reverse
  | _ => text

end BlockScope
