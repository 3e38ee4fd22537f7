import BlockScope.Check.BraceRule
import BlockScope.Check.ChainRule
import BlockScope.Check.Rule

/-!
A check of a document by rules. The rules run one after another, and their diagnostics are listed
together.
-/

set_option autoImplicit false
set_option relaxedAutoImplicit false

namespace BlockScope

inductive CheckError where
  /-- The services are given twice, by themselves and by the path of the document. -/
  | servicesGivenTwice
  | rule (error : RuleError)
  | scan (error : ScanError)
  | place (error : PlaceError)
  deriving DecidableEq, Repr

def CheckError.message : CheckError → String
  | .servicesGivenTwice => "Pass either services or path, not both"
  | .rule error => error.message
  | .scan error => error.message
  | .place error => error.message

/-- What a rule has found, and the events on the way. -/
structure RuleRun where
  diagnostics : List Diagnostic
  events : List Event
  deriving DecidableEq, Repr

def Rule.run (services : Services) (document : Document) (rule : Rule) :
    Except CheckError RuleRun :=
  match rule.kind with
  | .braces => do
    let diagnostics ← (braceDiagnostics document).mapError .place
    return ⟨diagnostics, [.ruleFinished rule.name diagnostics.length]⟩
  | .chains => do
    let placed ← (placedChainKeys document).mapError .scan
    let diagnostics ← (chainDiagnostics rule.code services document placed).mapError .place
    return ⟨diagnostics,
      passEvents services 0 placed ++ [.ruleFinished rule.name diagnostics.length]⟩

structure CheckReport where
  document : Document
  diagnostics : List Diagnostic
  events : List Event
  deriving DecidableEq, Repr

def CheckReport.hasErrors (report : CheckReport) : Bool := Diagnostic.hasErrors report.diagnostics

/-- The services that are given by themselves, by the path, or not at all. -/
def chooseServices : Option Services → Option String → Except CheckError Services
  | some _, some _ => .error .servicesGivenTwice
  | some services, none => .ok services
  | none, some path => .ok (.forPath path .builtin)
  | none, none => .ok {}

def checkDocument (document : Document) (services : Option Services) (path : Option String)
    (rules : List Rule) : Except CheckError CheckReport := do
  let services ← chooseServices services path
  (Rule.validate rules).mapError .rule
  let runs ← rules.mapM (Rule.run services document)
  return {
    document
    diagnostics := Diagnostic.sort (runs.flatMap (·.diagnostics))
    events := runs.flatMap (·.events) }

end BlockScope
