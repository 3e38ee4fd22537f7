import BlockScope.Scope.ObjectType
import BlockScope.Text.SlashPath

/-!
The root type of a document, from the content folder that its path goes through. Backslashes count
as slashes and capitals as small letters. Where several folders match, the longest one decides.
-/

set_option autoImplicit false
set_option relaxedAutoImplicit false

namespace BlockScope

/-- Content folders whose documents are not about characters. -/
def contentFolders : List (String × ObjectType) :=
  [("common/landed_titles", "landed_title"), ("common/religion", "faith"),
   ("common/culture", "culture"), ("common/dynasties", "dynasty"),
   ("common/dynasty_houses", "dynasty_house"), ("common/artifacts", "artifact"),
   ("common/schemes", "scheme"), ("common/secret_types", "secret"),
   ("common/story_cycles", "story"), ("common/activities", "activity"),
   ("common/casus_belli_types", "casus_belli"), ("common/factions", "faction")]

/-- Whether a pattern occurs in a text. -/
def occursIn (pattern : List Char) : List Char → Bool
  | [] => pattern.isEmpty
  | c :: rest => pattern.isPrefixOf (c :: rest) || occursIn pattern rest

/-- The form in which a path is compared with the folders. -/
def comparablePath (path : String) : List Char :=
  '/' :: lowercase (normalPath (path.toList.map fun c ↦ if c = '\\' then '/' else c))

/-- Whether something lies inside a folder on the way that a comparable path goes. -/
def goesThrough (path : List Char) (folder : String) : Bool :=
  occursIn ('/' :: folder.toList ++ ['/']) path

/-- The better of the best folder so far and another one that matches: the first of the longest. -/
def longerFolder (best : Option (String × ObjectType)) (folder : String × ObjectType) :
    Option (String × ObjectType) :=
  match best with
  | none => some folder
  | some held => if held.1.length < folder.1.length then some folder else some held

def contentFolder? (path : String) : Option (String × ObjectType) :=
  let comparable := comparablePath path
  contentFolders.foldl
    (fun best folder ↦ if goesThrough comparable folder.1 then longerFolder best folder else best)
    none

def rootTypeFor (path : String) : ObjectType :=
  match contentFolder? path with
  | some folder => folder.2
  | none => .character

end BlockScope
