import BlockScope.Text.Blank
import BlockScope.Text.DecimalDigit

/-!
Integers as they are typed. Blanks around the numeral are dropped, a sign may stand before the
digits, and single low lines may stand between them. Digits of every script count. The numeral
may not be longer than the limit.
-/

set_option autoImplicit false
set_option relaxedAutoImplicit false

namespace BlockScope

/-- The greatest number of digits that is read. -/
def numeralLimit : Nat := 4300

/-- Blanks around a numeral. The four information separators are none. -/
def isNumeralBlank (c : Char) : Bool :=
  isBlank c && !(0x1C ≤ c.toNat && c.toNat ≤ 0x1F)

/-- The digits of a numeral without blanks and sign. `between` says that a low line may follow. -/
def numeralDigits? (between : Bool) : List Char → Option (List Nat)
  | [] => if between then some [] else none
  | c :: rest =>
    if c = '_' then
      if between then numeralDigits? false rest else none
    else do
      let digit ← digitValue? c
      let later ← numeralDigits? true rest
      return digit :: later

/-- The number that decimal digits stand for, the most significant first. -/
def ofDigits (digits : List Nat) : Nat := digits.foldl (fun value digit ↦ 10 * value + digit) 0

def readMagnitude? (text : List Char) : Option Nat := do
  let digits ← numeralDigits? false text
  if digits.length ≤ numeralLimit then some (ofDigits digits) else none

def readInteger? (text : List Char) : Option Int :=
  let inner := (text.dropWhile isNumeralBlank).reverse.dropWhile isNumeralBlank |>.reverse
  match inner with
  | '+' :: rest => (readMagnitude? rest).map Int.ofNat
  | '-' :: rest => (readMagnitude? rest).map fun magnitude ↦ -(magnitude : Int)
  | _ => (readMagnitude? inner).map Int.ofNat

end BlockScope
