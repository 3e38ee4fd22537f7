import BlockScope.Check.Run
import BlockScope.Context
import BlockScope.Text.Encoding

/-!
The command that prints the contexts in a script file: of every line at its end, or of one line or
character that is asked for, and after them the diagnostics, if they are wanted.
-/

set_option autoImplicit false
set_option relaxedAutoImplicit false

namespace BlockScope

/-- A command: the script and what is to be printed of it. -/
structure Command where
  path : String
  line : Option Int := none
  character : Option Int := none
  diagnostics : Bool := false
  verbose : Bool := false
  deriving DecidableEq, Repr

inductive CommandError where
  /-- No file can have a path with a null character. -/
  | nullInPath
  | directory
  | missingFile
  | undecodableFile
  | scan (error : ScanError)
  | check (error : CheckError)
  deriving DecidableEq, Repr

def CommandError.message : CommandError → String
  | .nullInPath => "embedded null byte"
  | .directory => "Is a directory"
  | .missingFile => "No such file"
  | .undecodableFile => "The file is not UTF-8 text"
  | .scan error => error.message
  | .check error => error.message

/-- What a command prints, and the log of a verbose run. -/
structure CommandOutput where
  lines : List String
  log : List String
  deriving DecidableEq, Repr

namespace Command

def pathLabel : List String → String
  | [] => "-"
  | names => " > ".intercalate names

def contextLine (line character : Int) (context : PositionContext) : String :=
  let depth := context.depth
  let mode := context.mode.label
  let objectType := context.objectType
  let path := pathLabel context.path
  s!"[{line}:{character}] depth={depth} mode={mode} object_type={objectType} path={path}"

def diagnosticLine (map : LineMap) (diagnostic : Diagnostic) : String :=
  let position := map.positionAt diagnostic.span.start
  let line := position.line
  let character := position.character
  let severity := diagnostic.severity.label
  let code := diagnostic.code
  let message := diagnostic.message
  s!"{line}:{character} {severity} {code} {message}"

/-- The context of a line, at a character or at its end, with the events of its scan. -/
def contextOutput (root : ObjectType) (document : Document) (character : Option Int) (line : Int) :
    Except CommandError (String × List Event) := do
  let character := character.getD (document.line line).length
  let nesting ← (scanAt document.source line character).mapError .scan
  return (contextLine line character (.ofNesting .builtin root nesting),
    nesting.strays.reverse.map .strayBrace)

/-- The numbers of the lines whose contexts are printed. -/
def chosenLines (document : Document) : Option Int → List Int
  | some line => [line]
  | none => (List.range document.lineCount).map Int.ofNat

/-- The output for the text of the file. -/
def runOnText (command : Command) (document : Document) : Except CommandError CommandOutput := do
  let path := String.ofList (normalPath command.path.toList)
  let contexts ← (chosenLines document command.line).mapM
    (contextOutput (rootTypeFor path) document command.character)
  let report ←
    if command.diagnostics then
      ((checkDocument document none (some path) Rule.defaults).map some).mapError .check
    else .ok none
  let found := (report.map (·.diagnostics)).getD []
  let events := contexts.flatMap (·.2) ++ (report.map (·.events)).getD []
  return {
    lines := contexts.map (·.1) ++ found.map (diagnosticLine document.lineMap)
    log := if command.verbose then events.map Event.render else [] }

/-- Whether a path can only name a directory: it stays where it begins or goes up from there. -/
def namesDirectory (path : String) : Bool :=
  (pathComponents path.toList).all (· == ['.', '.'])

/-- The output for the bytes of the file, which may be missing. -/
def run (command : Command) (file : Option ByteArray) : Except CommandError CommandOutput :=
  if command.path.toList.contains '\x00' then .error .nullInPath
  else match file with
    | none => .error (if namesDirectory command.path then .directory else .missingFile)
    | some bytes =>
      match decodeFile? bytes with
      | none => .error .undecodableFile
      | some chars => command.runOnText ⟨chars⟩

end Command

end BlockScope
