import BlockScope.Text.Position

/-!
Diagnostics: what a check has found, and where. They are listed by the place where they begin, then
by the place where they end, then by code and message, and those that agree in all of these stay in
the order in which they were found.
-/

set_option autoImplicit false
set_option relaxedAutoImplicit false

namespace BlockScope

inductive Severity where
  | error
  | warning
  /-- A severity of the caller's own. -/
  | other (label : String)
  deriving DecidableEq, Repr

namespace Severity

def label : Severity → String
  | error => "error"
  | warning => "warning"
  | other label => label

def ofLabel (label : String) : Severity :=
  if label = "error" then error
  else if label = "warning" then warning
  else other label

@[simp] theorem label_ofLabel (word : String) : (ofLabel word).label = word := by
  unfold ofLabel
  split
  · rename_i h
    exact h.symm
  · split
    · rename_i h
      exact h.symm
    · rfl

end Severity

structure Diagnostic where
  code : String
  message : String
  span : Span
  severity : Severity := .error
  hint : Option String := none
  category : Option String := none
  deriving DecidableEq, Repr

namespace Diagnostic

def order : Diagnostic → Diagnostic → Ordering :=
  compareLex (compareOn (·.span.start)) <|
    compareLex (compareOn (·.span.stop)) <|
      compareLex (compareOn (·.code)) (compareOn (·.message))

/-- The diagnostics in the order in which they are listed. -/
def sort (diagnostics : List Diagnostic) : List Diagnostic :=
  diagnostics.mergeSort fun first second ↦ (order first second).isLE

def hasErrors (diagnostics : List Diagnostic) : Bool :=
  diagnostics.any (·.severity == .error)

end Diagnostic

/-- What all diagnostics of one kind have in common. -/
structure DiagnosticKind where
  code : String
  message : String
  hint : String
  severity : Severity
  category : String
  deriving DecidableEq, Repr

namespace DiagnosticKind

def invalidChain : DiagnosticKind where
  code := "TYPECHECK_INVALID_SCOPE_PATH"
  message := "Scope path contains a segment that does not change scope."
  hint := "Use a known scope changer (e.g. `liege`, `primary_title`, `holder`) " ++
    "or a saved `scope:` reference."
  severity := .warning
  category := "typecheck"

def extraClosingBrace : DiagnosticKind where
  code := "TYPECHECK_EXTRA_CLOSING_BRACE"
  message := "Closing brace has no matching opening brace."
  hint := "Remove the extra `\x7d` or add the missing block opening."
  severity := .warning
  category := "typecheck"

def unclosedBlock : DiagnosticKind where
  code := "TYPECHECK_UNCLOSED_BLOCK"
  message := "Block is not closed before the end of the document."
  hint := "Add the missing `\x7d`."
  severity := .warning
  category := "typecheck"

def all : List DiagnosticKind := [extraClosingBrace, invalidChain, unclosedBlock]

/-- A diagnostic of the kind over a span. -/
def spanning (kind : DiagnosticKind) (span : Span) : Diagnostic :=
  { code := kind.code
    message := kind.message
    span
    severity := kind.severity
    hint := some kind.hint
    category := some kind.category }

end DiagnosticKind

end BlockScope
