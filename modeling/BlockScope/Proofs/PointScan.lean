import BlockScope.Block.PointScan
import BlockScope.Proofs.Scan

/-!
A forward pass over many points finds at each of them what a fresh scan from the top finds there.
The pass keeps a line once it has read it, and walks over it piece by piece as the points come. What
carries the argument is where the pass stands: its nesting is that of the position, and the braces
still pending are those of the current line from the position on. Walking over the pending braces
then gives the nesting behind the line, whatever the pieces were.
-/

set_option autoImplicit false
set_option relaxedAutoImplicit false

namespace BlockScope

namespace ScanPass

variable {source : LineSource} {pass : ScanPass}

/-- A pass has read some lines of a source, and the braces still pending lead to their end. -/
structure HasRead (source : LineSource) (count : Nat) (pass : ScanPass) : Prop where
  linesRead : pass.linesRead = count
  behind : pass.nesting.walk (count - 1) pass.pending = nestingBehind source count

/-- A pass stands at a position: it has walked over the braces of the current line before the
position, and those from there on are pending. -/
structure StandsAt (source : LineSource) (position : Position) (pass : ScanPass) : Prop where
  linesRead : pass.linesRead = position.line + 1
  pending : pass.pending = (braceMarks (uncommented (source.line position.line))).dropWhile
    (·.column < position.character)
  nesting : pass.nesting = (nestingBehind source position.line).walk position.line
    ((braceMarks (uncommented (source.line position.line))).takeWhile
      (·.column < position.character))

theorem hasRead_start (source : LineSource) : HasRead source 0 .start := ⟨rfl, rfl⟩

theorem StandsAt.hasRead {position : Position} (hpass : pass.StandsAt source position) :
    pass.HasRead source (position.line + 1) := by
  refine ⟨hpass.linesRead, ?_⟩
  rw [hpass.pending, hpass.nesting, Nat.add_sub_cancel, ← Nesting.walk_append,
    List.takeWhile_append_dropWhile, nestingBehind_succ]

theorem HasRead.nextLine {count : Nat} (hpass : pass.HasRead source count) :
    (pass.nextLine source).StandsAt source ⟨count, 0⟩ := by
  refine ⟨by rw [ScanPass.nextLine, hpass.linesRead], ?_, ?_⟩
  · rw [ScanPass.nextLine, hpass.linesRead]
    cases braceMarks (uncommented (source.line count)) <;> simp
  · rw [ScanPass.nextLine, hpass.linesRead, hpass.behind]
    cases braceMarks (uncommented (source.line count)) <;> simp

theorem HasRead.readLines (extra : Nat) :
    ∀ {count : Nat} {pass : ScanPass}, pass.HasRead source count →
      (pass.readLines source (extra + 1)).StandsAt source ⟨count + extra, 0⟩ := by
  induction extra with
  | zero =>
    intro count pass hpass
    exact hpass.nextLine
  | succ extra ih =>
    intro count pass hpass
    have hnext := ih hpass.nextLine.hasRead
    rw [Nat.add_assoc, Nat.add_comm 1] at hnext
    exact hnext

/-- Assumes: a column that is not before another one. The braces up to it are those up to the other
one and then those of the rest up to it. -/
theorem takeWhile_column_append {first second : Nat} (horder : first ≤ second)
    (marks : List BraceMark) :
    marks.takeWhile (·.column < second) = marks.takeWhile (·.column < first) ++
        (marks.dropWhile (·.column < first)).takeWhile (·.column < second) ∧
      marks.dropWhile (·.column < second) =
        (marks.dropWhile (·.column < first)).dropWhile (·.column < second) := by
  induction marks with
  | nil => simp
  | cons mark marks ih =>
    by_cases hfirst : mark.column < first
    · have hsecond : mark.column < second := by omega
      simpa [List.takeWhile_cons, List.dropWhile_cons, hfirst, hsecond] using ih
    · simp [hfirst]

/-- Assumes: a pass that stands at a position, and a later character of the same line. -/
theorem StandsAt.walkOn {line first second : Nat} (hpass : pass.StandsAt source ⟨line, first⟩)
    (horder : first ≤ second) :
    StandsAt source ⟨line, second⟩
      { pass with
        pending := pass.pending.dropWhile (·.column < second)
        nesting := pass.nesting.walk line (pass.pending.takeWhile (·.column < second)) } := by
  obtain ⟨htake, hdrop⟩ :=
    takeWhile_column_append horder (braceMarks (uncommented (source.line line)))
  refine ⟨hpass.linesRead, ?_, ?_⟩
  · change pass.pending.dropWhile _ = _
    rw [hpass.pending, hdrop]
  · change pass.nesting.walk line _ = _
    rw [hpass.pending, hpass.nesting, htake, Nesting.walk_append]

/-- Where a pass stands behind the previous point. -/
def StandsBehind (source : LineSource) (pass : ScanPass) : Option Position → Prop
  | none => pass = .start
  | some previous => pass.StandsAt source previous

/-- Assumes: a pass that stands behind the previous point, and a point that does not come before
that one. The pass walks on to the point. -/
theorem StandsBehind.advance {previous : Option Position}
    (hpass : pass.StandsBehind source previous) {position : Position}
    (horder : previous.any position.precedes = false) :
    (pass.advance source position).StandsAt source position := by
  -- What is left is to walk along the line of the point, from its beginning or from the previous
  -- point on the same line.
  suffices hline : ∃ first ≤ position.character,
      (pass.readLines source (position.line + 1 - pass.linesRead)).StandsAt source
        ⟨position.line, first⟩ by
    obtain ⟨first, hfirst, hstands⟩ := hline
    exact hstands.walkOn hfirst
  have hbelow : ∀ count, pass.HasRead source count → count ≤ position.line →
      ∃ first ≤ position.character,
        (pass.readLines source (position.line + 1 - pass.linesRead)).StandsAt source
          ⟨position.line, first⟩ := by
    intro count hread hcount
    have hstands := hread.readLines (position.line - count)
    rw [Nat.add_sub_cancel' hcount] at hstands
    refine ⟨0, Nat.zero_le _, ?_⟩
    rw [hread.linesRead, Nat.succ_sub hcount]
    exact hstands
  cases previous with
  | none =>
    cases hpass
    exact hbelow 0 (hasRead_start source) (Nat.zero_le _)
  | some previous =>
    have hstands : pass.StandsAt source previous := hpass
    have hnot : ¬ (position.line < previous.line ∨
        position.line = previous.line ∧ position.character < previous.character) := by
      simpa [Position.precedes] using horder
    by_cases hsame : position.line = previous.line
    · refine ⟨previous.character, by omega, ?_⟩
      rw [hstands.linesRead, hsame, Nat.sub_self]
      exact hstands
    · exact hbelow (previous.line + 1) hstands.hasRead (by omega)

theorem StandsAt.nesting_eq_nestingBefore {position : Position}
    (hpass : pass.StandsAt source position) (hline : (position.line : Int) < source.count) :
    pass.nesting = nestingBefore source position := by
  rw [hpass.nesting, nestingBefore_of_lt hline]

end ScanPass

/-- The coordinates by which a point is given to a scan. -/
def Position.coordinates (position : Position) : Int × Int := (position.line, position.character)

/-- Points in document order, where a point may be repeated. -/
def InDocumentOrder (points : List Position) : Prop :=
  points.Pairwise fun first second ↦ second.precedes first = false

/-- Assumes: a point on a line of the source that does not come before the previous one. The pass
walks on to it, and goes on from there. -/
theorem scanPointsFrom_coordinates_cons {source : LineSource} {pass : ScanPass}
    {previous : Option Position} {point : Position}
    (hprevious : previous.any point.precedes = false) (hline : (point.line : Int) < source.count)
    {rest : List (Int × Int)} :
    scanPointsFrom source pass previous (point.coordinates :: rest) =
      { scanPointsFrom source (pass.advance source point) (some point) rest with
        results := (point, (pass.advance source point).nesting) ::
          (scanPointsFrom source (pass.advance source point) (some point) rest).results } := by
  rw [Position.coordinates, scanPointsFrom, scanPosition_coordinates]
  simp only [hprevious, Bool.false_eq_true, if_false]
  rw [if_neg (by omega)]

/-- Assumes: a pass that stands behind the previous point, and points in document order on lines of
the source, none of them before the previous point. The pass goes on to all of them, and finds the
nesting of a fresh scan at each. -/
theorem scanPointsFrom_eq {source : LineSource} (points : List Position) :
    ∀ (pass : ScanPass) (previous : Option Position), pass.StandsBehind source previous →
      InDocumentOrder points → (∀ point ∈ points, previous.any point.precedes = false) →
        (∀ point ∈ points, (point.line : Int) < source.count) →
          (scanPointsFrom source pass previous (points.map Position.coordinates)).results =
              points.map (fun point ↦ (point, nestingBefore source point)) ∧
            (scanPointsFrom source pass previous (points.map Position.coordinates)).failure =
              none := by
  induction points with
  | nil =>
    intro pass previous _ _ _ _
    exact ⟨rfl, rfl⟩
  | cons point rest ih =>
    intro pass previous hpass horder hprevious hline
    obtain ⟨hfirst, hrest⟩ := List.pairwise_cons.mp horder
    have hstands := hpass.advance (hprevious point List.mem_cons_self)
    have hbelow := hline point List.mem_cons_self
    obtain ⟨hresults, hfailure⟩ := ih (pass.advance source point) (some point) hstands hrest
      (fun later hlater ↦ by simpa using hfirst later hlater)
      (fun later hlater ↦ hline later (List.mem_cons_of_mem _ hlater))
    rw [List.map_cons, scanPointsFrom_coordinates_cons (hprevious point List.mem_cons_self) hbelow]
    refine ⟨?_, hfailure⟩
    rw [List.map_cons, ← hstands.nesting_eq_nestingBefore hbelow, hresults]

theorem scanPoints_eq {source : LineSource} {points : List Position}
    (horder : InDocumentOrder points)
    (hline : ∀ point ∈ points, (point.line : Int) < source.count) :
    (scanPoints source (points.map Position.coordinates)).results =
        points.map (fun point ↦ (point, nestingBefore source point)) ∧
      (scanPoints source (points.map Position.coordinates)).failure = none :=
  scanPointsFrom_eq points .start none rfl horder (fun _ _ ↦ rfl) hline

/-- Assumes: points in document order, on lines of the source. One pass over them is not refused,
and it yields one result for each point, in order: the point and the nesting that a scan from the
top finds there. -/
theorem scanPoints_eq_scanAt (source : LineSource) (points : List Position)
    (horder : InDocumentOrder points)
    (hline : ∀ point ∈ points, (point.line : Int) < source.count) :
    (scanPoints source (points.map Position.coordinates)).failure = none ∧
      (scanPoints source (points.map Position.coordinates)).results.map
          (fun result ↦ (result.1, (.ok result.2 : Except ScanError Nesting))) =
        points.map fun point ↦ (point, scanAt source point.line point.character) := by
  obtain ⟨hresults, hfailure⟩ := scanPoints_eq horder hline
  refine ⟨hfailure, ?_⟩
  rw [hresults, List.map_map]
  refine List.map_congr_left fun point _ ↦ ?_
  rw [scanAt_coordinates]
  rfl

/-- Two lines, with a comment on the first and one brace too many on the second. -/
def strayLines : LineSource := .ofLines ["a=\x7bb=\x7b #\x7b".toList, "\x7d\x7d\x7d".toList]

/-- Points of both lines, one of them repeated and one beyond the end of its line. -/
theorem scanPoints_eq_scanAt_strayLines :
    InDocumentOrder [⟨0, 5⟩, ⟨0, 5⟩, ⟨0, 90⟩, ⟨1, 3⟩] ∧
      (∀ point ∈ ([⟨0, 5⟩, ⟨0, 5⟩, ⟨0, 90⟩, ⟨1, 3⟩] : List Position),
        (point.line : Int) < strayLines.count) ∧
      (scanPoints strayLines
          ([⟨0, 5⟩, ⟨0, 5⟩, ⟨0, 90⟩, ⟨1, 3⟩].map Position.coordinates)).results.map
          (fun result ↦ (result.1, (.ok result.2 : Except ScanError Nesting))) =
        [⟨0, 5⟩, ⟨0, 5⟩, ⟨0, 90⟩, ⟨1, 3⟩].map fun point ↦
          (point, scanAt strayLines point.line point.character) := by
  have horder : InDocumentOrder [⟨0, 5⟩, ⟨0, 5⟩, ⟨0, 90⟩, ⟨1, 3⟩] := by
    unfold InDocumentOrder
    decide
  have hline : ∀ point ∈ ([⟨0, 5⟩, ⟨0, 5⟩, ⟨0, 90⟩, ⟨1, 3⟩] : List Position),
      (point.line : Int) < strayLines.count := by
    decide
  exact ⟨horder, hline, (scanPoints_eq_scanAt _ _ horder hline).2⟩

end BlockScope
