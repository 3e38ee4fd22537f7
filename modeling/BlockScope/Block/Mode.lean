import BlockScope.Text.Quoted

/-!
What the contents of a block mean.
-/

set_option autoImplicit false
set_option relaxedAutoImplicit false

namespace BlockScope

inductive Mode where
  | condition
  | action
  | weight
  | unknown
  deriving DecidableEq, Repr

/-- A word that names no mode. -/
structure ModeError where
  word : String
  deriving DecidableEq, Repr

def ModeError.message (error : ModeError) : String := quoted error.word ++ " is not a valid Mode"

namespace Mode

def all : List Mode := [condition, action, weight, unknown]

def word : Mode → String
  | condition => "condition"
  | action => "action"
  | weight => "weight"
  | unknown => "unknown"

/-- The name under which the mode is listed. -/
def label : Mode → String
  | condition => "CONDITION"
  | action => "ACTION"
  | weight => "WEIGHT"
  | unknown => "UNKNOWN"

def ofWord (word : String) : Except ModeError Mode :=
  match all.find? (·.word == word) with
  | some mode => .ok mode
  | none => .error ⟨word⟩

theorem mem_all (mode : Mode) : mode ∈ all := by
  cases mode <;> simp [all]

@[simp] theorem ofWord_word (mode : Mode) : ofWord mode.word = .ok mode := by
  cases mode <;> rfl

end Mode

end BlockScope
