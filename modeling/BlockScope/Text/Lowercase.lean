import BlockScope.Text.LetterCase

/-!
Lower-case text. Every capital is replaced by its lower-case form, which for one letter is two
characters long. A capital sigma becomes a final sigma where a word ends: a cased character stands
before it and none after it, and case-ignorable characters are looked through on both sides.
-/

set_option autoImplicit false
set_option relaxedAutoImplicit false

namespace BlockScope

/-- The lower-case form of a character, whatever stands around it. -/
def lowerChar (c : Char) : List Char :=
  if c = 'İ' then ['i', '\u0307']
  else match capitalRuns.findSome? fun run ↦ run.lower? c.toNat with
    | some code => [Char.ofNat code]
    | none => [c]

/-- Whether the first character that is not case-ignorable is cased. -/
def casedFirst (text : List Char) : Bool :=
  (text.dropWhile isCaseIgnorable).head?.any isCased

/-- The lower-case form of a capital sigma between two texts, the first one reversed. -/
def lowerSigma (before after : List Char) : Char :=
  if casedFirst before && !casedFirst after then 'ς' else 'σ'

/-- The lower-case form of a character between two texts, the first one reversed. -/
def lowerBetween (before : List Char) (c : Char) (after : List Char) : List Char :=
  if c = 'Σ' then [lowerSigma before after] else lowerChar c

/-- The lower-case form of a text that follows the characters `before`, latest first. -/
def lowercaseAfter (before : List Char) : List Char → List Char
  | [] => []
  | c :: rest => lowerBetween before c rest ++ lowercaseAfter (c :: before) rest

def lowercase (text : List Char) : List Char := lowercaseAfter [] text

end BlockScope
