import BlockScope.Scope.Builtin
import BlockScope.Scope.Track

/-!
Dotted chains of scope changes, such as `liege.primary_title.holder`. A chain is followed segment
by segment. A saved reference ends the chain with success, because only running the script would
tell what it points at.
-/

set_option autoImplicit false
set_option relaxedAutoImplicit false

namespace BlockScope

/-- Puts a segment in front of others, unless it is empty. -/
def consSegment (segment : List Char) (later : List (List Char)) : List (List Char) :=
  if segment.isEmpty then later else segment :: later

mutual

/-- The segments of the rest of a chain, of whose current segment some characters have been read.
A dot ends a segment, and empty segments are dropped. -/
def segmentsFrom (read : List Char) : List Char → List (List Char)
  | [] => consSegment read []
  | c :: rest =>
    if c = '.' then consSegment read (segmentsFrom [] rest)
    else if read ++ [c] = referenceMark then referenceFrom referenceMark rest
    else segmentsFrom (read ++ [c]) rest

/-- The same inside a saved reference, which is taken whole up to the next dot. -/
def referenceFrom (read : List Char) : List Char → List (List Char)
  | [] => [read]
  | c :: rest =>
    if c = '.' then read :: segmentsFrom [] rest else referenceFrom (read ++ [c]) rest

end

def chainSegments (chain : String) : List String :=
  (segmentsFrom [] chain.toList).map String.ofList

/-- How following a chain ends. -/
inductive ChainOutcome where
  /-- Every segment changes the scope, and the last one leads to a type. -/
  | reaches (type : ObjectType)
  /-- A segment does not change the scope. -/
  | stopsAt (segment : String)
  /-- The chain has no segments. -/
  | empty
  deriving DecidableEq, Repr

namespace ChainOutcome

def isValid : ChainOutcome → Bool
  | reaches _ => true
  | stopsAt _ | empty => false

def finalType? : ChainOutcome → Option ObjectType
  | reaches type => some type
  | stopsAt _ | empty => none

def invalidSegment? : ChainOutcome → Option String
  | stopsAt segment => some segment
  | reaches _ | empty => none

end ChainOutcome

/-- The type that a segment changes the scope to. -/
def segmentType? (vocabulary : Vocabulary) (changers : NameTable ObjectType) (segment : String) :
    Option ObjectType :=
  (changers.find? segment).or (vocabulary.outputType? segment)

def followSegments (vocabulary : Vocabulary) (changers : NameTable ObjectType) :
    ObjectType → List String → ChainOutcome
  | current, [] => .reaches current
  | _, segment :: rest =>
    if isScopeReference segment then .reaches .character
    else match segmentType? vocabulary changers segment with
      | some type => followSegments vocabulary changers type rest
      | none => .stopsAt segment

/-- Follows a chain from a type. -/
def followChain (vocabulary : Vocabulary) (changers : NameTable ObjectType) (chain : String)
    (start : ObjectType) : ChainOutcome :=
  match chainSegments chain with
  | [] => .empty
  | segments => followSegments vocabulary changers start segments

/-- Whether a name has the shape of a chain. -/
def isChain (name : String) : Bool := name.toList.contains '.'

end BlockScope
