import BlockScope.Text.Blank
import BlockScope.Text.Lowercase
import BlockScope.Text.Pieces

/-!
Object types: the kinds of game entity that a scope can point at. They are plain words, because a
vocabulary may bring types of its own. Documentation writes them in any case, with blanks around
them and with some shorter names, and lists of them with commas.
-/

set_option autoImplicit false
set_option relaxedAutoImplicit false

namespace BlockScope

abbrev ObjectType := String

namespace ObjectType

/-- Among the supported types of a keyword, the mark that it is valid in every scope. -/
def any : ObjectType := "none"

/-- The type of a scope that only running the script would tell. -/
def indeterminate : ObjectType := "indeterminate"

/-- The root type of documents that are about characters, which most are. -/
def character : ObjectType := "character"

def known : List ObjectType :=
  ["none", "character", "landed_title", "province", "combat", "combat_side", "faith", "religion",
   "dynasty", "dynasty_house", "faction", "culture", "culture_group", "culture_pillar",
   "culture_tradition", "army", "regiment", "holy_order", "mercenary_company", "artifact",
   "inspiration", "scheme", "secret", "story", "war", "casus_belli", "activity", "activity_type",
   "travel_plan", "council_task", "great_holy_war", "struggle", "legend", "accolade", "epidemic",
   "geographical_region", "trait", "character_memory", "decision", "doctrine", "government_type",
   "vassal_contract"]

/-- Shorter names, each with the type that it stands for. -/
def aliases : List (String × ObjectType) :=
  [("title", "landed_title"), ("county", "landed_title"), ("duchy", "landed_title"),
   ("kingdom", "landed_title"), ("empire", "landed_title"), ("house", "dynasty_house"),
   ("ghw", "great_holy_war")]

/-- The type that a word in the documentation names. -/
def ofWord (word : List Char) : ObjectType :=
  let plain := String.ofList (lowercase (trim word))
  (aliases.lookup plain).getD plain

def parse (word : String) : ObjectType := ofWord word.toList

/-- The types of a list with commas. Blank entries are left out. -/
def parseList (words : String) : List ObjectType :=
  ((pieces ',' words.toList).filter fun part ↦ !part.all isBlank).map ofWord

/-- Whether a keyword with some supported types is valid in a scope. -/
def isSupported (current : ObjectType) (supported : List ObjectType) : Bool :=
  supported.contains any || supported.contains current

end ObjectType

end BlockScope
