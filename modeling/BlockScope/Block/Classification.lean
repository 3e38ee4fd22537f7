import BlockScope.Block.BlockName
import BlockScope.Script.Operator

/-!
The mode of a block, from its name, its operator and the mode around it. The rules are tried in
order. A comparison opens a weight expression. A soft assignment keeps the mode of conditions and
actions and is unknown elsewhere. Then the name decides, and a name without a meaning of its own
takes the mode around it.
-/

set_option autoImplicit false
set_option relaxedAutoImplicit false

namespace BlockScope

/-- The mode that a name gives to a block under a mode. -/
def classifyName (name : String) (parent : Mode) : Mode :=
  if (weightNames.contains name || scriptValueNames.contains name) &&
      (!conditionNames.contains name || parent == .weight) then .weight
  else if conditionNames.contains name then .condition
  else if actionNames.contains name then .action
  else if (ParameterBlock.find? name).any (·.appliesIn parent) then .condition
  else parent

/-- The mode of a soft assignment under a mode. -/
def softMode : Mode → Mode
  | .condition => .condition
  | .action => .action
  | .weight | .unknown => .unknown

def classify (name : String) (operator : BlockOperator) (parent : Mode) : Mode :=
  if operator.isComparison then .weight
  else if operator = .soft then softMode parent
  else classifyName name parent

/-- The mode of a block whose operator is given by its symbol. A symbol that is no operator leaves
the decision to the name. -/
def classifySymbol (name symbol : String) (parent : Mode) : Mode :=
  match BlockOperator.ofSymbol? symbol with
  | some operator => classify name operator parent
  | none => classifyName name parent

/-- The parameters that a block takes beside its conditions under a mode. -/
def extraParameters (name : String) (parent : Mode) : List String :=
  match ParameterBlock.find? name with
  | some block => if block.appliesIn parent then block.parameters else []
  | none => []

end BlockScope
