/-!
Occurrences of a pattern in a text. A recogniser looks at the front of a text, and at the character
before it, and says how long its match is. The occurrences are found from left to right, each at
the first place where the recogniser matches, and the search goes on behind the last match.
-/

set_option autoImplicit false
set_option relaxedAutoImplicit false

namespace BlockScope

/-- A match: its value, the offset of its first character and the offset behind its last. -/
structure Occurrence (α : Type) where
  start : Nat
  stop : Nat
  value : α
  deriving DecidableEq, Repr

/-- Given the character before a text, if any, and the text, the value and length of a match at
the front of the text. -/
abbrev Recogniser (α : Type) := Option Char → List Char → Option (α × Nat)

/-- The occurrences in the rest of a text. The rest begins at `offset`, its first `skip` characters
belong to the last match, and `before` is the character in front of it. -/
def occurrencesFrom {α : Type} (recognise : Recogniser α) :
    Option Char → Nat → Nat → List Char → List (Occurrence α)
  | _, _, _, [] => []
  | _, offset, skip + 1, c :: rest => occurrencesFrom recognise (some c) (offset + 1) skip rest
  | before, offset, 0, c :: rest =>
    match recognise before (c :: rest) with
    | some (value, length) =>
      ⟨offset, offset + length, value⟩ ::
        occurrencesFrom recognise (some c) (offset + 1) (length - 1) rest
    | none => occurrencesFrom recognise (some c) (offset + 1) 0 rest

def occurrences {α : Type} (recognise : Recogniser α) (text : List Char) : List (Occurrence α) :=
  occurrencesFrom recognise none 0 0 text

end BlockScope
