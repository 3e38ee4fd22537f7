import BlockScope.Text.Pieces

/-!
The normal form of a path whose components are divided by slashes. Empty components and single
dots say nothing and are dropped, and `..` stays. A path that begins with a slash is absolute, one
that begins with exactly two keeps both, and the empty path is the dot.
-/

set_option autoImplicit false
set_option relaxedAutoImplicit false

namespace BlockScope

/-- The components of a path that say something. -/
def pathComponents (path : List Char) : List (List Char) :=
  (pieces '/' path).filter fun part ↦ part != [] && part != ['.']

/-- The slashes that an absolute path begins with. -/
def pathRoot (path : List Char) : List Char :=
  match path.takeWhile (· == '/') with
  | [] => []
  | ['/', '/'] => ['/', '/']
  | _ => ['/']

def normalPath (path : List Char) : List Char :=
  match pathRoot path ++ joinPieces '/' (pathComponents path) with
  | [] => ['.']
  | text => text

end BlockScope
