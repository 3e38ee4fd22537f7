import BlockScope.Block.PointScan
import BlockScope.Check.Event
import BlockScope.Check.Services
import BlockScope.Diagnostic
import BlockScope.Scope.Chain
import BlockScope.Script.StatementKey

/-!
The rule on dotted keys. A key inside a block that has the shape of a chain has to resolve from the
type of object around it. Keys outside all blocks are names of entities and are not checked, nor
are keys with parameters or variables, keys with a colon that are not saved references, and dates.
-/

set_option autoImplicit false
set_option relaxedAutoImplicit false

namespace BlockScope

/-- Digits in groups with single dots between them, such as `867.1.1`. -/
def isDottedNumber (key : List Char) : Bool :=
  (pieces '.' key).all fun group ↦ !group.isEmpty && group.all isDecimalDigit

/-- Whether a statement key is to be followed as a chain. -/
def isChainKey (key : String) : Bool :=
  let chars := key.toList
  isChain key && !chars.contains '$' && !chars.contains '@' &&
    (!chars.contains ':' || referenceMark.isPrefixOf chars) && !isDottedNumber chars

structure ChainKey where
  position : Position
  key : String
  deriving DecidableEq, Repr

/-- The chain keys of a line with a number. -/
def chainKeysOn (number : Nat) (line : List Char) : List ChainKey :=
  ((statementKeys (uncommented line)).filter fun found ↦ isChainKey found.value).map fun found ↦
    ⟨⟨number, found.start⟩, found.value⟩

/-- The chain keys of lines, the first of which has a number. -/
def chainKeysFrom : Nat → List (List Char) → List ChainKey
  | _, [] => []
  | number, line :: rest => chainKeysOn number line ++ chainKeysFrom (number + 1) rest

def chainKeys (document : Document) : List ChainKey := chainKeysFrom 0 document.lines

/-- The chain keys of a document, each with the nesting where it stands. -/
def placedChainKeys (document : Document) : Except ScanError (List (ChainKey × Nesting)) :=
  let keys := chainKeys document
  let scan := scanPoints document.source <|
    keys.map fun key ↦ (key.position.line, key.position.character)
  match scan.failure with
  | some error => .error error
  | none => .ok (keys.zip (scan.results.map (·.2)))

/-- The type from which a chain is followed. An indeterminate type gives way to the usual one. -/
def chainStart (services : Services) (nesting : Nesting) : ObjectType :=
  let type := trackScope services.vocabulary nesting.path services.root
  if type = .indeterminate then .character else type

/-- How following a key ends, if it is to be followed where it stands. -/
def chainOutcome? (services : Services) (placed : ChainKey × Nesting) : Option ChainOutcome :=
  if placed.2.depth = 0 then none
  else some <| followChain services.vocabulary services.changers placed.1.key
    (chainStart services placed.2)

def ChainOutcome.isInvalid (outcome : ChainOutcome) : Bool := !outcome.isValid

/-- The chain keys that do not resolve, each with the way in which following it ends. -/
def unresolvedChains (services : Services) (placed : List (ChainKey × Nesting)) :
    List (ChainKey × ChainOutcome) :=
  placed.filterMap fun entry ↦
    ((chainOutcome? services entry).filter ChainOutcome.isInvalid).map fun outcome ↦
      (entry.1, outcome)

def chainMessage (key : String) (outcome : ChainOutcome) : String :=
  let segment := outcome.invalidSegment?.getD "None"
  DiagnosticKind.invalidChain.message ++ s!" `{key}` stops at `{segment}`."

/-- The diagnostic, under a rule's code, for a key that does not resolve. -/
def chainDiagnostic (code : String) (map : LineMap) (unresolved : ChainKey × ChainOutcome) :
    Except PlaceError Diagnostic := do
  let key := unresolved.1
  let first := key.position.character
  let span ← map.spanOn key.position.line first (first + key.key.length)
  return { DiagnosticKind.invalidChain.spanning span with
    code
    message := chainMessage key.key unresolved.2 }

def chainDiagnostics (code : String) (services : Services) (document : Document)
    (placed : List (ChainKey × Nesting)) : Except PlaceError (List Diagnostic) :=
  (unresolvedChains services placed).mapM (chainDiagnostic code document.lineMap)

/-- The event of following a key, if it stops at a segment. -/
def chainEvents (services : Services) (placed : ChainKey × Nesting) : List Event :=
  match (chainOutcome? services placed).bind (·.invalidSegment?) with
  | some segment => [.unknownSegment placed.1.key segment]
  | none => []

/-- The events of a pass over placed keys, when the pass has already met some stray braces. -/
def passEvents (services : Services) : Nat → List (ChainKey × Nesting) → List Event
  | _, [] => []
  | met, entry :: rest =>
    (entry.2.strays.reverse.drop met).map .strayBrace ++ chainEvents services entry ++
      passEvents services entry.2.strayCount rest

end BlockScope
