import BlockScope.Scope.Builtin
import BlockScope.Scope.ContentFolder

/-!
What the rules of a check may consult: the keywords, the scope changers of chains, and the root
type of the document.
-/

set_option autoImplicit false
set_option relaxedAutoImplicit false

namespace BlockScope

structure Services where
  vocabulary : Vocabulary := .builtin
  changers : NameTable ObjectType := scopeChangers
  root : ObjectType := .character

/-- The services for a document with a path. -/
def Services.forPath (path : String) (vocabulary : Vocabulary) : Services :=
  { vocabulary, root := rootTypeFor path }

end BlockScope
