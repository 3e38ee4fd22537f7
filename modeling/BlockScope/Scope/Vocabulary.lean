import BlockScope.Scope.NameTable
import BlockScope.Scope.ObjectType

/-!
Keywords of conditions and of actions. A keyword with an output type changes the scope to an object
of that type; one without leaves the scope as it is. The same name may be a keyword of both kinds.
-/

set_option autoImplicit false
set_option relaxedAutoImplicit false

namespace BlockScope

structure Keyword where
  name : String
  outputType : Option ObjectType := none
  supportedTypes : List ObjectType := [ObjectType.any]
  description : String := ""
  deriving DecidableEq, Repr

def Keyword.changesScope (keyword : Keyword) : Bool := keyword.outputType.isSome

structure Vocabulary where
  conditions : NameTable Keyword
  actions : NameTable Keyword
  deriving Repr

namespace Vocabulary

/-- The vocabulary of some keywords. The last one of a name counts. -/
def ofKeywords (conditions actions : List Keyword) : Vocabulary :=
  { conditions := .ofList (conditions.map fun keyword ↦ (keyword.name, keyword))
    actions := .ofList (actions.map fun keyword ↦ (keyword.name, keyword)) }

def conditionOutput? (vocabulary : Vocabulary) (name : String) : Option ObjectType :=
  (vocabulary.conditions.find? name).bind (·.outputType)

def actionOutput? (vocabulary : Vocabulary) (name : String) : Option ObjectType :=
  (vocabulary.actions.find? name).bind (·.outputType)

/-- The type that a name changes the scope to, as a condition or else as an action. -/
def outputType? (vocabulary : Vocabulary) (name : String) : Option ObjectType :=
  (vocabulary.conditionOutput? name).or (vocabulary.actionOutput? name)

end Vocabulary

end BlockScope
