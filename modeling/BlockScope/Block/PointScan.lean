import BlockScope.Block.Scan

/-!
The nestings at many points in one forward pass. The points come in document order, and each line
is asked for once, when the first point on it or behind it is reached. The pass ends at the first
point beyond the document, or at the first point that is refused; what it has found until then is
kept.
-/

set_option autoImplicit false
set_option relaxedAutoImplicit false

namespace BlockScope

/-- The state of a forward pass. -/
structure ScanPass where
  /-- How many lines have been asked for. The last of them is the current line. -/
  linesRead : Nat
  /-- The braces of the current line that have not been walked over. -/
  pending : List BraceMark
  nesting : Nesting
  /-- The numbers of the lines asked for, the latest first. -/
  requested : List Nat
  deriving DecidableEq, Repr

namespace ScanPass

def start : ScanPass := ⟨0, [], .empty, []⟩

/-- Finishes the current line and asks for the next one. -/
def nextLine (source : LineSource) (pass : ScanPass) : ScanPass :=
  { linesRead := pass.linesRead + 1
    pending := braceMarks (uncommented (source.line pass.linesRead))
    nesting := pass.nesting.walk (pass.linesRead - 1) pass.pending
    requested := pass.linesRead :: pass.requested }

def readLines (source : LineSource) : Nat → ScanPass → ScanPass
  | 0, pass => pass
  | count + 1, pass => readLines source count (pass.nextLine source)

/-- Walks on to a position. -/
def advance (source : LineSource) (position : Position) (pass : ScanPass) : ScanPass :=
  let pass := pass.readLines source (position.line + 1 - pass.linesRead)
  { pass with
    pending := pass.pending.dropWhile (·.column < position.character)
    nesting := pass.nesting.walk position.line
      (pass.pending.takeWhile (·.column < position.character)) }

end ScanPass

structure PointScan where
  results : List (Position × Nesting)
  /-- The numbers of the lines asked for, in order. -/
  requested : List Nat
  failure : Option ScanError
  deriving DecidableEq, Repr

/-- The end of a pass at its present state. -/
def ScanPass.finish (pass : ScanPass) (failure : Option ScanError) : PointScan :=
  ⟨[], pass.requested.reverse, failure⟩

/-- Whether one position comes before another in the document. -/
def Position.precedes (first second : Position) : Bool :=
  first.line < second.line || (first.line == second.line && first.character < second.character)

/-- The rest of a pass, behind the previous point. -/
def scanPointsFrom (source : LineSource) (pass : ScanPass) (previous : Option Position) :
    List (Int × Int) → PointScan
  | [] => pass.finish none
  | (line, character) :: rest =>
    match scanPosition line character with
    | .error error => pass.finish (some error)
    | .ok position =>
      if previous.any position.precedes then pass.finish (some .outOfOrder)
      else if source.count ≤ line then pass.finish none
      else
        let pass := pass.advance source position
        let later := scanPointsFrom source pass (some position) rest
        { later with results := (position, pass.nesting) :: later.results }

def scanPoints (source : LineSource) (points : List (Int × Int)) : PointScan :=
  scanPointsFrom source .start none points

end BlockScope
