import BlockScope.Script.Header

/-!
Statement keys: what stands on the left of an operator. A key begins a line or follows a blank or
an opening brace, and an operator follows it, perhaps behind blanks. Keys have the characters of
names and the at sign.
-/

set_option autoImplicit false
set_option relaxedAutoImplicit false

namespace BlockScope

def isKeyChar (c : Char) : Bool := isNameChar c || c == '@'

/-- The length of the operator at the front of a text. Statements have two operators, for equality
and inequality, that do not open blocks. -/
def statementOperatorLength : List Char → Option Nat
  | '?' :: '=' :: _ => some 2
  | '>' :: '=' :: _ => some 2
  | '<' :: '=' :: _ => some 2
  | '=' :: '=' :: _ => some 2
  | '!' :: '=' :: _ => some 2
  | '=' :: _ => some 1
  | '>' :: _ => some 1
  | '<' :: _ => some 1
  | _ => none

/-- Whether a key may begin behind a character, or at the beginning of the line. -/
def mayPrecedeKey : Option Char → Bool
  | none => true
  | some c => isBlank c || c == '{'

/-- Recognises a key together with the operator that follows it. -/
def statementKey : Recogniser String := fun before text ↦
  let key := text.takeWhile isKeyChar
  let behind := text.dropWhile isKeyChar
  if key.isEmpty || !mayPrecedeKey before then none
  else match statementOperatorLength (behind.dropWhile isBlank) with
    | none => none
    | some length =>
      some (String.ofList key, key.length + (behind.takeWhile isBlank).length + length)

/-- The statement keys of a line. Each occurrence begins with its key. -/
def statementKeys (line : List Char) : List (Occurrence String) := occurrences statementKey line

end BlockScope
