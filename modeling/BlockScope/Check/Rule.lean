import BlockScope.Diagnostic

/-!
Rules of a check, and which lists of them are accepted. A rule has one of two kinds, and a code, a
name, a domain and a confidence that the caller may set. Before a check runs, each rule has to be
in the one known domain, its code has to begin with the common mark, and its name has to differ
from those before it; of several faults the first one found in this order is reported.
-/

set_option autoImplicit false
set_option relaxedAutoImplicit false

namespace BlockScope

inductive RuleKind where
  /-- Dotted keys that do not resolve. -/
  | chains
  /-- Braces without a partner. -/
  | braces
  deriving DecidableEq, Repr

structure Rule where
  kind : RuleKind
  code : String
  name : String
  domain : String
  confidence : String
  deriving DecidableEq, Repr

inductive RuleError where
  | invalidDomain (name domain : String)
  | invalidCode (name code : String)
  | duplicateName (name : String)
  deriving DecidableEq, Repr

def RuleError.message : RuleError → String
  | .invalidDomain name domain =>
    s!"Typecheck rule `{name}` has invalid domain `{domain}`; expected `correctness`."
  | .invalidCode name code =>
    s!"Typecheck rule `{name}` has invalid code `{code}`; expected `TYPECHECK_` prefix."
  | .duplicateName name => s!"Typecheck rule `{name}` is registered more than once."

namespace Rule

/-- The only domain that rules may have. -/
def soleDomain : String := "correctness"

/-- What the code of a rule begins with. -/
def codeMark : String := "TYPECHECK_"

def chains : Rule where
  kind := .chains
  code := DiagnosticKind.invalidChain.code
  name := "scopePath"
  domain := soleDomain
  confidence := "heuristic"

def braces : Rule where
  kind := .braces
  code := DiagnosticKind.extraClosingBrace.code
  name := "unbalancedBrace"
  domain := soleDomain
  confidence := "sound"

def order : Rule → Rule → Ordering := compareLex (compareOn (·.code)) (compareOn (·.name))

/-- The rules in the order of their codes, and of their names where the codes are the same. -/
def sort (rules : List Rule) : List Rule :=
  rules.mergeSort fun first second ↦ (order first second).isLE

/-- The rules of a check for which the caller names none. -/
def defaults : List Rule := sort [chains, braces]

theorem defaults_eq : defaults = [braces, chains] := by
  have horder : (order chains braces).isLE = false := by decide +kernel
  simp [defaults, sort, List.mergeSort, horder]

def hasCodeMark (rule : Rule) : Bool := codeMark.toList.isPrefixOf rule.code.toList

/-- Accepts rules that follow others with the names `seen`. -/
def validateAfter (seen : List String) : List Rule → Except RuleError Unit
  | [] => .ok ()
  | rule :: rest =>
    if rule.domain ≠ soleDomain then .error (.invalidDomain rule.name rule.domain)
    else if !rule.hasCodeMark then .error (.invalidCode rule.name rule.code)
    else if seen.contains rule.name then .error (.duplicateName rule.name)
    else validateAfter (rule.name :: seen) rest

def validate (rules : List Rule) : Except RuleError Unit := validateAfter [] rules

theorem validate_defaults : validate defaults = .ok () := by
  rw [defaults_eq]
  rfl

end Rule

end BlockScope
