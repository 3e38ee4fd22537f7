import BlockScope.Block.Scan
import BlockScope.Scope.ContentFolder
import BlockScope.Scope.Track

/-!
All that is known about a position without parsing the document: how deep it is, the named blocks
around it, what their contents mean, and the type of object that they talk about.
-/

set_option autoImplicit false
set_option relaxedAutoImplicit false

namespace BlockScope

structure PositionContext where
  depth : Nat
  /-- The names of the blocks around the position, the outermost first. -/
  path : List String
  mode : Mode
  objectType : ObjectType
  frames : List Frame
  deriving DecidableEq, Repr

inductive ContextError where
  | scan (error : ScanError)
  /-- The root type is given twice, by itself and by the path of the document. -/
  | rootGivenTwice
  deriving DecidableEq, Repr

def ContextError.message : ContextError → String
  | .scan error => error.message
  | .rootGivenTwice => "Pass either options or path, not both"

namespace PositionContext

/-- The name of the innermost block. -/
def parentBlock? (context : PositionContext) : Option String := context.path.getLast?

def isIndeterminate (context : PositionContext) : Bool :=
  context.objectType == ObjectType.indeterminate

/-- The context that a nesting gives in a document with a root type. -/
def ofNesting (vocabulary : Vocabulary) (root : ObjectType) (nesting : Nesting) :
    PositionContext :=
  { depth := nesting.depth
    path := nesting.path
    mode := nesting.mode
    objectType := trackScope vocabulary nesting.path root
    frames := nesting.frames }

end PositionContext

def resolveAt (vocabulary : Vocabulary) (root : ObjectType) (source : LineSource)
    (line character : Int) : Except ScanError PositionContext :=
  (scanAt source line character).map (.ofNesting vocabulary root)

/-- The root type of a document that is given by itself, by the path, or not at all. -/
def chooseRoot : Option ObjectType → Option String → Except ContextError ObjectType
  | some _, some _ => .error .rootGivenTwice
  | some root, none => .ok root
  | none, some path => .ok (rootTypeFor path)
  | none, none => .ok .character

/-- The context at a position of a document. -/
def resolveDocument (vocabulary : Vocabulary) (root : Option ObjectType) (path : Option String)
    (document : Document) (line character : Int) : Except ContextError PositionContext := do
  let root ← chooseRoot root path
  (resolveAt vocabulary root document.source line character).mapError .scan

end BlockScope
