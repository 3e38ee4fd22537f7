import BlockScope.Text.Graphic

/-!
Quoted text for messages. The quotation mark is the apostrophe, unless the text has an apostrophe
and no double quote. The mark itself and the backslash are escaped with a backslash, the usual
three controls by letter, and any other character without a visible form by its code in two, four
or eight hexadecimal digits.
-/

set_option autoImplicit false
set_option relaxedAutoImplicit false

namespace BlockScope

/-- The code in hexadecimal, filled up with zeros. -/
def hexCode (width code : Nat) : List Char := (Nat.toDigits 16 code).leftpad width '0'

/-- A character as it stands between two marks. -/
def quotedChar (mark c : Char) : List Char :=
  if c = mark || c = '\\' then ['\\', c]
  else if c = '\t' then ['\\', 't']
  else if c = '\n' then ['\\', 'n']
  else if c = '\r' then ['\\', 'r']
  else if isGraphic c then [c]
  else if c.toNat < 0x100 then '\\' :: 'x' :: hexCode 2 c.toNat
  else if c.toNat < 0x10000 then '\\' :: 'u' :: hexCode 4 c.toNat
  else '\\' :: 'U' :: hexCode 8 c.toNat

/-- The quotation mark chosen for a text. -/
def quotationMark (text : List Char) : Char :=
  if text.contains '\x27' && !text.contains '"' then '"' else '\x27'

def quoted (text : String) : String :=
  let mark := quotationMark text.toList
  String.ofList (mark :: text.toList.flatMap (quotedChar mark) ++ [mark])

end BlockScope
