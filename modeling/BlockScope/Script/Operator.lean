/-!
The operators that may stand between the name of a block and its opening brace. Where two of them
fit, the longer one is read.
-/

set_option autoImplicit false
set_option relaxedAutoImplicit false

namespace BlockScope

inductive BlockOperator where
  | equals
  | soft
  | greater
  | less
  | greaterEqual
  | lessEqual
  deriving DecidableEq, Repr

namespace BlockOperator

def all : List BlockOperator := [equals, soft, greater, less, greaterEqual, lessEqual]

def symbol : BlockOperator → String
  | equals => "="
  | soft => "?="
  | greater => ">"
  | less => "<"
  | greaterEqual => ">="
  | lessEqual => "<="

/-- The name under which the operator is listed. -/
def label : BlockOperator → String
  | equals => "EQUALS"
  | soft => "SOFT_SCOPE"
  | greater => "GREATER"
  | less => "LESS"
  | greaterEqual => "GREATER_EQUAL"
  | lessEqual => "LESS_EQUAL"

def ofSymbol? (symbol : String) : Option BlockOperator := all.find? (·.symbol == symbol)

def isComparison : BlockOperator → Bool
  | greater | less | greaterEqual | lessEqual => true
  | equals | soft => false

/-- The operator at the front of a text, and the text behind it. -/
def read? : List Char → Option (BlockOperator × List Char)
  | '?' :: '=' :: rest => some (soft, rest)
  | '>' :: '=' :: rest => some (greaterEqual, rest)
  | '<' :: '=' :: rest => some (lessEqual, rest)
  | '=' :: rest => some (equals, rest)
  | '>' :: rest => some (greater, rest)
  | '<' :: rest => some (less, rest)
  | _ => none

theorem mem_all (operator : BlockOperator) : operator ∈ all := by
  cases operator <;> simp [all]

@[simp] theorem ofSymbol?_symbol (operator : BlockOperator) :
    ofSymbol? operator.symbol = some operator := by
  cases operator <;> decide +kernel

end BlockOperator

end BlockScope
