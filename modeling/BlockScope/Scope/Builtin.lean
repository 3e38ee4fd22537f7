import BlockScope.Scope.Vocabulary

/-!
The built-in vocabulary. It has the keywords that matter for scopes: the links from an object to
another, the iterators over many objects, control flow and the logical combinators. The complete
catalogue of a game is for the caller to bring.
-/

set_option autoImplicit false
set_option relaxedAutoImplicit false

namespace BlockScope

namespace Builtin

/-- Links: the name, the type that it leads to and the type that it leads from. -/
def links : List (String × ObjectType × ObjectType) :=
  [("liege", "character", "character"), ("father", "character", "character"),
   ("mother", "character", "character"), ("primary_spouse", "character", "character"),
   ("primary_heir", "character", "character"), ("primary_title", "landed_title", "character"),
   ("capital_county", "landed_title", "character"), ("capital_province", "province", "character"),
   ("dynasty", "dynasty", "character"), ("house", "dynasty_house", "character"),
   ("faith", "faith", "character"), ("culture", "culture", "character"),
   ("holder", "character", "landed_title"), ("de_jure_liege", "landed_title", "landed_title"),
   ("county", "landed_title", "province"), ("root", "character", "none")]

def conditionIterators : List (String × ObjectType) :=
  [("any_vassal", "character"), ("any_child", "character"), ("any_spouse", "character"),
   ("any_sibling", "character"), ("any_courtier", "character"),
   ("any_realm_county", "landed_title"), ("any_held_title", "landed_title"),
   ("any_claim", "landed_title"), ("any_in_list", ObjectType.indeterminate),
   ("all_vassal", "character"), ("all_child", "character")]

def actionIterators : List (String × ObjectType) :=
  [("every_vassal", "character"), ("random_vassal", "character"), ("every_child", "character"),
   ("random_child", "character"), ("every_spouse", "character"), ("every_sibling", "character"),
   ("every_courtier", "character"), ("every_prisoner", "character"), ("every_knight", "character"),
   ("every_realm_county", "landed_title"), ("every_held_title", "landed_title"),
   ("every_claim", "landed_title"), ("every_in_list", ObjectType.indeterminate),
   ("random_in_list", ObjectType.indeterminate)]

def controlFlow : List String :=
  ["if", "else", "else_if", "switch", "while", "random", "random_list", "hidden_effect", "prev",
   "this"]

def logicalConditions : List String :=
  ["NOT", "AND", "OR", "NOR", "NAND", "trigger_if", "trigger_else", "trigger_else_if", "always",
   "exists", "prev", "this"]

/-- Names that change the scope inside a chain, with the type that each leads to. -/
def scopeChangerList : List (String × ObjectType) :=
  [("root", "character"), ("prev", "character"), ("this", "character"), ("from", "character"),
   ("liege", "character"), ("top_liege", "character"), ("host", "character"),
   ("employer", "character"), ("father", "character"), ("mother", "character"),
   ("real_father", "character"), ("primary_spouse", "character"), ("betrothed", "character"),
   ("primary_heir", "character"), ("player_heir", "character"), ("designated_heir", "character"),
   ("killer", "character"), ("imprisoner", "character"), ("warden", "character"),
   ("court_owner", "character"), ("involved_activity", "activity"), ("dynasty", "dynasty"),
   ("house", "dynasty_house"), ("dynast", "character"), ("house_head", "character"),
   ("faith", "faith"), ("culture", "culture"), ("religion", "religion"),
   ("religious_head", "character"), ("location", "province"), ("capital_province", "province"),
   ("capital_county", "landed_title"), ("primary_title", "landed_title"),
   ("home_court", "province"), ("holder", "character"), ("barony", "landed_title"),
   ("county", "landed_title"), ("duchy", "landed_title"), ("kingdom", "landed_title"),
   ("empire", "landed_title"), ("de_jure_liege", "landed_title"), ("title_province", "province"),
   ("province", "province"), ("attacker", "character"), ("defender", "character"), ("war", "war"),
   ("casus_belli", "casus_belli"), ("scheme_owner", "character"), ("scheme_target", "character"),
   ("activity_owner", "character"), ("activity_location", "province"), ("story_owner", "character"),
   ("secret_owner", "character"), ("secret_target", "character"), ("artifact", "artifact"),
   ("artifact_owner", "character"), ("combat_side", "combat_side"), ("enemy_side", "combat_side"),
   ("target", "character"), ("candidate", "character"), ("suzerain", "character"),
   ("diarch", "character")]

/-- A name as it is read aloud. -/
def spokenName (name : String) : String :=
  String.ofList (name.toList.map fun c ↦ if c = '_' then ' ' else c)

def linkKeyword (purpose : String) (link : String × ObjectType × ObjectType) : Keyword :=
  { name := link.1
    outputType := some link.2.1
    supportedTypes := [link.2.2]
    description := purpose ++ spokenName link.1 }

def iteratorKeyword (iterator : String × ObjectType) : Keyword :=
  { name := iterator.1
    outputType := some iterator.2
    supportedTypes := [ObjectType.character] }

def conditions : List Keyword :=
  logicalConditions.map (fun name ↦ { name, description := "Logical condition" }) ++
    links.map (linkKeyword "Check conditions on ") ++ conditionIterators.map iteratorKeyword

def actions : List Keyword :=
  controlFlow.map (fun name ↦ { name, description := "Control flow" }) ++
    links.map (linkKeyword "Change scope to ") ++ actionIterators.map iteratorKeyword

end Builtin

/-- The vocabulary that is used where the caller brings none. -/
def Vocabulary.builtin : Vocabulary := .ofKeywords Builtin.conditions Builtin.actions

/-- The scope changers that are used where the caller brings none. -/
def scopeChangers : NameTable ObjectType := .ofList Builtin.scopeChangerList

end BlockScope
