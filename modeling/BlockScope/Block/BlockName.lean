import BlockScope.Block.Mode

/-!
Block names with a fixed meaning. The name `modifier` has two: inside a weight block it adjusts the
weight under a condition, and elsewhere it is a condition.
-/

set_option autoImplicit false
set_option relaxedAutoImplicit false

namespace BlockScope

def conditionNames : List String :=
  ["trigger", "is_shown", "is_valid", "is_valid_showing_failures_only", "ai_potential",
   "can_be_picked", "can_pick", "is_highlighted", "auto_accept", "can_send",
   "can_be_picked_artifact", "potential", "allow", "NOT", "AND", "OR", "NOR", "NAND", "trigger_if",
   "trigger_else_if", "trigger_else", "limit", "modifier"]

def actionNames : List String :=
  ["immediate", "effect", "after", "on_accept", "on_decline", "on_send", "on_auto_accept", "option",
   "hidden_effect", "on_use", "on_expire", "on_invalidated", "on_discover", "on_expose", "on_start",
   "on_end", "on_monthly", "on_yearly"]

def weightNames : List String :=
  ["ai_will_do", "ai_chance", "ai_accept", "ai_frequency", "ai_target_quick_trigger",
   "weight_multiplier", "cooldown", "modifier"]

/-- Blocks of arithmetic on a value, which count as weights. -/
def scriptValueNames : List String :=
  ["chance", "add", "subtract", "multiply", "divide", "min", "max", "factor", "value",
   "compare_modifier", "compatibility_modifier"]

/-- A condition block that takes named parameters beside its conditions. -/
structure ParameterBlock where
  name : String
  /-- The only mode around the block in which it is one, or any. -/
  validIn : Option Mode
  parameters : List String
  deriving DecidableEq, Repr

def parameterBlocks : List ParameterBlock :=
  [⟨"modifier", some .weight, ["add", "factor", "multiply", "desc", "value"]⟩,
   ⟨"opinion_modifier", some .weight,
    ["who", "opinion_target", "multiplier", "step", "min", "max", "desc"]⟩,
   ⟨"ai_value_modifier", some .weight,
    ["who", "ai_boldness", "ai_compassion", "ai_energy", "ai_greed", "ai_honor",
     "ai_rationality"]⟩,
   ⟨"calc_true_if", none, ["amount"]⟩]

namespace ParameterBlock

def find? (name : String) : Option ParameterBlock := parameterBlocks.find? (·.name == name)

def appliesIn (block : ParameterBlock) (parent : Mode) : Bool :=
  block.validIn.all (· == parent)

def validInLabel (block : ParameterBlock) : String :=
  match block.validIn with
  | some mode => mode.word
  | none => "any"

end ParameterBlock

end BlockScope
